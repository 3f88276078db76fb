import VirtIOGPU.Card.AllOrNothing
import VirtIOGPU.Card.Virgl

/-!
# When a failed Virgl setup leaves the 2D display working

`chip_virgl_init_2d` switches the scanout to its 3D resource halfway, and what fails after that
destroys the context only: the resource stays, and so does the scanout.
`chip_virgl_recover_2d` disables the scanout first and leaves it to a successful setup to enable
it again.

So a failure falls back to 2D exactly when it comes before the 3D resource exists
(`GpuState.FailsEarly`), and in a recovery only if, besides, the scanout could not be disabled.

## Strategy

The two halves differ in what holds before.  For the setup the 2D resource is shown at the start;
for the recovery this is part of what is asked.

```text
the setup fails at          leaves on the host            2D display
no 3D buffer, no queue      nothing                       works
CTX_CREATE                  nothing                       works
sub-context, CREATE_3D      nothing, if CTX_DESTROY is    works then
                            done
ATTACH_BACKING or later     the 3D resource               does not count as fallen back
```

What is left is followed with `Host.Lasting`, the properties of the host that neither a create
command nor `SET_SCANOUT` destroys.  That the 3D resource is live is one of these, so every
failure after its creation leaves it there (`virglInContext_live`).
-/

namespace VirtIOGPU.Card

open Lib Lib.Hoare

/-- The 2D display works, and nothing has been added to what was on the host. -/
structure FallenBack (host : Host) (gs' : GpuState) (host' : Host) : Prop where
  resourceId : gs'.resourceId = gs'.fbResourceId
  shown : host'.ShowsId gs'.fbResourceId
  notReady : gs'.virgl2dReady = false
  resources : ∀ id, host'.Live id → host.Live id
  contexts : ∀ id, host'.contexts id = true → host.contexts id = true

/-- The commands for context and resource had no effect if they returned `FALSE`, and the host
creates only what does not exist. -/
structure VirglEnv.Definite (env : VirglEnv) (gs : GpuState) (host : Host) : Prop where
  ctxCreate : env.ctxCreate ≠ .lost
  ctxDestroy : env.ctxDestroy ≠ .lost
  create : env.create ≠ .lost
  freeContext : env.ctxCreate = .done → host.contexts gs.nextCtxId = false
  freeResource : env.create = .done → ¬ host.Live gs.allocId

/-- The failure comes before the 3D resource exists, and the context is gone. -/
def GpuState.FailsEarly (gs : GpuState) (env : VirglEnv) : Prop :=
  ¬ gs.VirglPossible env ∨ env.ctxCreate ≠ .done ∨
    env.ctxDestroy = .done ∧ (env.subContext = false ∨ env.create ≠ .done)

instance (gs : GpuState) (env : VirglEnv) : Decidable (gs.FailsEarly env) :=
  inferInstanceAs (Decidable (_ ∨ _ ∨ _ ∧ _))

/-- What the driver reads of the display is as before, and Virgl is off. -/
structure GpuState.OnlyTwoD (gs' gs : GpuState) : Prop where
  resourceId : gs'.resourceId = gs.resourceId
  fbResourceId : gs'.fbResourceId = gs.fbResourceId
  notReady : gs'.virgl2dReady = false

/-! ## What stays on the host -/

section Stays

variable {id : UInt32} {P : Host → Prop}

theorem gpuCommand_host {effect : Host → Host} (answer : GpuAnswer)
    (heffect : ∀ host, P host → P (effect host)) :
    Stable (fun c => P c.host) (gpuCommand effect answer) := by
  intro c hc
  cases answer with
  | done => exact heffect c.host hc
  | refused => exact hc
  | lost => exact heffect c.host hc

theorem setScanoutAttempts_host (s : Scanout) (answers : ℕ → GpuAnswer)
    (hscanout : ∀ host, P host → P (host.setScanout s)) (n : ℕ) :
    Stable (fun c => P c.host) (setScanoutAttempts s answers n) := by
  induction n with
  | zero => exact Stable.ret false
  | succ n ih =>
      exact Stable.bind (gpuCommand_host _ hscanout) fun _ => Stable.ite (Stable.ret true) ih

theorem createCommand_host {id : UInt32} {resource : GpuResource} (answer : GpuAnswer)
    (hcreate : ∀ host, P host → P (host.create id resource)) :
    Stable (fun c => P c.host) (createCommand id resource answer) :=
  Stable.bind (Stable.update fun _ hc => hc) fun _ => gpuCommand_host _ hcreate

/-- A property that creating resources and setting the scanout keeps. -/
structure Host.Lasting (P : Host → Prop) : Prop where
  create : ∀ host id resource, P host → P (host.create id resource)
  setScanout : ∀ host s, P host → P (host.setScanout s)

theorem Host.live_lasting (id : UInt32) : Host.Lasting fun host => host.Live id where
  create host i resource hlive := by
    change (Function.update host.resources i (some resource) id).isSome
    by_cases hi : id = i
    · rw [hi, Function.update_self]
      rfl
    · rw [Function.update_of_ne hi]
      exact hlive
  setScanout _ _ hlive := hlive

variable (gs : GpuState) (env : VirglEnv)

theorem virglSecond_host (hP : Host.Lasting P) :
    Stable (fun c => P c.host) (virglSecond gs env) := by
  refine Stable.ite ?_ (Stable.ret _)
  refine Stable.bind (createCommand_host _ fun _ => hP.create _ _ _) fun _ =>
    Stable.ite (Stable.ret _) ?_
  exact Stable.bind (gpuCommand_host _ fun _ h => h) fun _ =>
    Stable.ite (Stable.ret _) (Stable.ret _)

theorem virglVbuf_host (hP : Host.Lasting P) : Stable (fun c => P c.host) (virglVbuf gs env) :=
  Stable.ite (Stable.bind (createCommand_host _ fun _ => hP.create _ _ _) fun _ =>
    Stable.ite (Stable.ret _) (Stable.ret _)) (Stable.ret _)

/-- After the first resource nothing is taken from the host. -/
theorem virglRest_host (hP : Host.Lasting P) (r : Bool × GpuState) :
    Stable (fun c => P c.host) (do
      if !r.1 then
        return (false, r.2)
      let gs ← virglSecond r.2 env
      if !env.pipeline then
        return (false, gs)
      let gs ← virglVbuf (gs.withShaders env.shaders) env
      if !env.bound then
        return (false, gs)
      return (true, gs.withVirglReady true)) := by
  refine Stable.ite (Stable.ret _) (Stable.bind (virglSecond_host _ env hP) fun gs => ?_)
  refine Stable.ite (Stable.ret _) (Stable.bind (virglVbuf_host _ env hP) fun gs => ?_)
  exact Stable.ite (Stable.ret _) (Stable.ret _)

end Stays

/-! ## `chip_virgl_init_2d` -/

section Init

variable {host : Host} {gs : GpuState} {env : VirglEnv}

/-- A context that is created and destroyed leaves no trace. -/
theorem Host.setContext_undo {id : UInt32} (hfree : host.contexts id = false) :
    (host.setContext id true).setContext id false = host := by
  have hcontexts : Function.update (Function.update host.contexts id true) id false =
      host.contexts := by
    rw [Function.update_idem, ← hfree, Function.update_eq_self]
  unfold Host.setContext
  rw [hcontexts]

/-- Until the first resource exists nothing has changed. -/
theorem virglInContext_early (hcreate : env.create ≠ .lost)
    (hearly : env.subContext = false ∨ env.create ≠ .done) (hready : gs.virgl2dReady = false) :
    Triple (fun c => c.host = host) (virglInContext gs env) fun r c =>
      r.1 = false ∧ r.2.OnlyTwoD gs ∧ c.host = host := by
  have hsame (gs' : GpuState) (hids : gs'.resourceId = gs.resourceId ∧
      gs'.fbResourceId = gs.fbResourceId ∧ gs'.virgl2dReady = gs.virgl2dReady) :
      gs'.OnlyTwoD gs := ⟨hids.1, hids.2.1, hids.2.2.trans hready⟩
  refine Triple.ite (fun _ => Triple.ret fun c hc => ⟨rfl, hsame gs ⟨rfl, rfl, rfl⟩, hc⟩)
    fun hsub => ?_
  have hdone : env.create ≠ .done := by
    rcases hearly with hno | hno
    · rw [hno] at hsub
      exact absurd rfl hsub
    · exact hno
  have hevent : Triple (fun c => c.host = host)
      (createCommand gs.allocId .virgl3D env.create) fun ok c => ok = false ∧ c.host = host := by
    refine Triple.bind (R := fun _ c => c.host = host) (Triple.update fun _ hc => hc) fun _ => ?_
    refine (gpuCommand_exact _ hcreate).strengthen fun ok c hc => ?_
    rw [if_neg hdone] at hc
    exact ⟨Bool.eq_false_iff.mpr fun h => hdone (hc.1.mp h), hc.2⟩
  unfold virglSetup
  refine Triple.bind (R := fun r c => r = (false, gs.idTaken) ∧ c.host = host) ?_ fun r => ?_
  · unfold virglFirst
    refine Triple.bind hevent fun created => Triple.fact fun hcreated => ?_
    subst hcreated
    exact Triple.ret fun c hc => ⟨rfl, hc⟩
  · refine Triple.fact fun hr => ?_
    subst hr
    exact Triple.ret fun c hc => ⟨rfl, hsame gs.idTaken ⟨rfl, rfl, rfl⟩, hc⟩

/-- Once it exists it stays. -/
theorem virglInContext_live (hsub : env.subContext = true) (hcreate : env.create = .done) :
    Triple (fun _ => True) (virglInContext gs env) fun _ c => c.host.Live gs.allocId := by
  have hlasting := Host.live_lasting gs.allocId
  refine Triple.ite (fun hnot => ?_) fun _ => ?_
  · rw [hsub] at hnot
    exact absurd hnot (by simp)
  unfold virglSetup
  refine Triple.bind (R := fun _ c => c.host.Live gs.allocId) ?_ fun r => ?_
  case refine_2 =>
    obtain ⟨ok, gs'⟩ := r
    exact virglRest_host env hlasting (ok, gs')
  have hevent : Triple (fun _ => True) (createCommand gs.allocId .virgl3D env.create)
      fun _ c => c.host.Live gs.allocId := by
    rw [hcreate]
    intro c _
    change (Function.update c.host.resources gs.allocId _ gs.allocId).isSome
    rw [Function.update_self]
    rfl
  unfold virglFirst
  refine Triple.bind hevent fun _ => Stable.ite (Stable.ret _) ?_
  have hattach : Stable (fun c => c.host.Live gs.allocId) (gpuCommand id env.attach) :=
    gpuCommand_host (P := fun host => host.Live gs.allocId) _ fun _ h => h
  refine Stable.bind hattach fun _ => Stable.ite (Stable.ret _) ?_
  refine Stable.bind (setScanoutAttempts_host (P := fun host => host.Live gs.allocId) _ _
    (fun host => hlasting.setScanout host _) 3) fun _ => ?_
  exact Stable.ite (Stable.ret _) (Stable.ret _)

/-- What a failed setup leaves. -/
theorem chipVirglInit2d_failure (henv : env.Definite gs host) :
    Triple (fun c => c.host = host) (chipVirglInit2d gs env) fun r c => r.1 = false →
      (gs.FailsEarly env → r.2.OnlyTwoD gs ∧ c.host = host) ∧
        (¬ gs.FailsEarly env → (¬ host.Live gs.allocId ∧ c.host.Live gs.allocId) ∨
          (host.contexts gs.nextCtxId = false ∧ c.host.contexts gs.nextCtxId = true)) := by
  unfold chipVirglInit2d
  refine Triple.ite (fun hnot => Triple.ret fun c hc _ => ?_) fun hpossible => ?_
  · exact ⟨fun _ => ⟨⟨rfl, rfl, rfl⟩, hc⟩, fun hlate => absurd (Or.inl hnot) hlate⟩
  have hpossible' : gs.VirglPossible env := not_not.mp hpossible
  refine Triple.bind (gpuCommand_exact _ henv.ctxCreate) fun created =>
    Triple.fact fun hcreated => ?_
  refine Triple.ite (fun hnot => Triple.ret fun c hc _ => ?_) fun hyes => ?_
  · have hctx : env.ctxCreate ≠ .done := fun hdone => by simp [hcreated.mpr hdone] at hnot
    rw [if_neg hctx] at hc
    exact ⟨fun _ => ⟨⟨rfl, rfl, rfl⟩, hc⟩, fun hlate => absurd (Or.inr (Or.inl hctx)) hlate⟩
  have hctx : env.ctxCreate = .done := hcreated.mp (by simpa using hyes)
  -- the context is there now; whether it is gone at the end depends on CTX_DESTROY
  have hfree := henv.freeContext hctx
  rw [if_pos hctx]
  by_cases hearly : env.subContext = false ∨ env.create ≠ .done
  · -- the context is all there is to destroy
    refine Triple.bind (virglInContext_early henv.create hearly rfl) fun r => ?_
    obtain ⟨ok, gs'⟩ := r
    refine Triple.fact fun hfalse => Triple.fact fun hkept => ?_
    obtain rfl : ok = false := hfalse
    have hkept' : gs'.OnlyTwoD gs := ⟨hkept.resourceId, hkept.fbResourceId, hkept.notReady⟩
    refine Triple.bind (gpuCommand_exact _ henv.ctxDestroy) fun _ =>
      Triple.ret fun c hc _ => ⟨fun hfails => ⟨hkept', ?_⟩, fun hlate => Or.inr ⟨hfree, ?_⟩⟩
    · have hdestroy : env.ctxDestroy = .done := by
        rcases hfails with hno | hno | hdone
        · exact absurd hpossible' hno
        · exact absurd hctx hno
        · exact hdone.1
      rw [hc.2, if_pos hdestroy]
      exact Host.setContext_undo hfree
    · have hdestroy : env.ctxDestroy ≠ .done :=
        fun hdone => hlate (Or.inr (Or.inr ⟨hdone, hearly⟩))
      rw [hc.2, if_neg hdestroy]
      exact Function.update_self ..
  · -- the resource is left behind
    rw [not_or, not_not, Bool.not_eq_false] at hearly
    have hlate : ¬ gs.FailsEarly env := by
      rintro (hno | hno | ⟨-, hno | hno⟩)
      · exact hno hpossible'
      · exact hno hctx
      · exact Bool.false_ne_true (hno.symm.trans hearly.1)
      · exact hno hearly.2
    have hlive (gs : GpuState) : Triple _ (virglInContext gs env) _ :=
      virglInContext_live hearly.1 hearly.2
    refine Triple.bind ((hlive _).weaken fun _ _ => trivial) fun r => ?_
    obtain ⟨ok, gs'⟩ := r
    have hpost {gs' : GpuState} {ok : Bool} {c : CardState} (hc : c.host.Live gs.allocId) :
        (ok, gs').1 = false → (gs.FailsEarly env → gs'.OnlyTwoD gs ∧ c.host = host) ∧
          (¬ gs.FailsEarly env → (¬ host.Live gs.allocId ∧ c.host.Live gs.allocId) ∨
            (host.contexts gs.nextCtxId = false ∧ c.host.contexts gs.nextCtxId = true)) :=
      fun _ => ⟨fun h => absurd h hlate, fun _ => Or.inl ⟨henv.freeResource hearly.2, hc⟩⟩
    refine Triple.ite (fun _ => ?_) fun _ => Triple.ret fun c hc => hpost hc
    exact Triple.bind (gpuCommand_host (P := fun host => host.Live gs.allocId) _ fun _ h => h)
      fun _ => Triple.ret fun c hc => hpost hc

/-- A failed setup has fallen back where it failed early and the 2D resource was shown. -/
theorem chipVirglInit2d_fallenBack_iff (henv : env.Definite gs host)
    (hid : gs.resourceId = gs.fbResourceId) :
    Triple (fun c => c.host = host) (chipVirglInit2d gs env) fun r c => r.1 = false →
      (FallenBack host r.2 c.host ↔ host.ShowsId gs.fbResourceId ∧ gs.FailsEarly env) := by
  refine (chipVirglInit2d_failure henv).strengthen fun r c hr hfalse => ?_
  obtain ⟨hearly, hlate⟩ := hr hfalse
  constructor
  · intro hback
    by_cases hfails : gs.FailsEarly env
    · obtain ⟨hsame, hhost⟩ := hearly hfails
      have hshown := hback.shown
      rw [hhost, hsame.fbResourceId] at hshown
      exact ⟨hshown, hfails⟩
    · rcases hlate hfails with ⟨hnone, hlive⟩ | ⟨hnone, hcontext⟩
      · exact absurd (hback.resources _ hlive) hnone
      · exact absurd (hnone.symm.trans (hback.contexts _ hcontext)) Bool.false_ne_true
  · rintro ⟨hshown, hfails⟩
    obtain ⟨hsame, hhost⟩ := hearly hfails
    rw [hhost]
    refine ⟨?_, ?_, hsame.notReady, fun _ h => h, fun _ h => h⟩
    · rw [hsame.resourceId, hsame.fbResourceId, hid]
    · rw [hsame.fbResourceId]
      exact hshown

end Init

/-! ## `chip_virgl_recover_2d` -/

/-- The recovery up to the new setup. -/
def virglTeardown (gs : GpuState) (env : RecoverEnv) : Driver Unit := do
  let _ ← chipSetScanout 0 0 0 0 0 env.setScanout
  let _ ← chipCtxDestroy gs.virgl2dCtx env.ctxDestroy
  unrefIf gs.virgl2dResource env.unref
  unrefIf gs.virgl2dResource2 env.unref2
  unrefIf gs.virgl2dVbufRes env.unrefVbuf

/-- The commands of the teardown had no effect if they returned `FALSE`. -/
structure RecoverEnv.Definite (env : RecoverEnv) : Prop where
  setScanout : ∀ n, env.setScanout n ≠ .lost
  unref : env.unref ≠ .lost
  unref2 : env.unref2 ≠ .lost
  unrefVbuf : env.unrefVbuf ≠ .lost

/-- The command that drops the resource `i` drops `id`. -/
def DropsId (i : UInt32) (answer : GpuAnswer) (id : UInt32) : Prop :=
  i ≠ 0 ∧ answer = .done ∧ i = id

instance (i : UInt32) (answer : GpuAnswer) (id : UInt32) : Decidable (DropsId i answer id) :=
  inferInstanceAs (Decidable (_ ∧ _ ∧ _))

/-- The 2D resource was shown already, and the scanout could not be disabled. -/
structure KeepsScanout (gs : GpuState) (env : RecoverEnv) (host : Host) : Prop where
  shown : host.ShowsId gs.fbResourceId
  refused : Shows env.setScanout 3 = false
  unref : ¬ DropsId gs.virgl2dResource env.unref gs.fbResourceId
  unref2 : ¬ DropsId gs.virgl2dResource2 env.unref2 gs.fbResourceId
  unrefVbuf : ¬ DropsId gs.virgl2dVbufRes env.unrefVbuf gs.fbResourceId

section Recover

variable {gs : GpuState} {env : RecoverEnv} {host : Host} {id : UInt32} {p : Prop}

theorem unrefIf_showsId (i : UInt32) {answer : GpuAnswer} (hanswer : answer ≠ .lost) :
    Triple (fun c => c.host.ShowsId id ↔ p) (unrefIf i answer) fun _ c =>
      c.host.ShowsId id ↔ p ∧ ¬ DropsId i answer id := by
  refine Triple.onlyIf (fun hi => ?_) fun hi c hc => ?_
  · refine Triple.bind (R := fun _ c => c.host.ShowsId id ↔ p ∧ ¬ DropsId i answer id) ?_
      fun _ => Triple.ret fun _ hc => hc
    refine Triple.transition fun c hc => ?_
    cases answer with
    | done =>
        have hunref : (c.host.unref i).ShowsId id ↔ c.host.ShowsId id ∧ i ≠ id := by
          unfold Host.ShowsId Host.unref
          simp only [Option.mem_filter_iff, decide_eq_true_eq, ne_eq]
          constructor
          · rintro ⟨s, ⟨hs, hne⟩, rfl⟩
            exact ⟨⟨s, hs, rfl⟩, fun h => hne h.symm⟩
          · rintro ⟨⟨s, hs, rfl⟩, hne⟩
            exact ⟨s, ⟨hs, fun h => hne h.symm⟩, rfl⟩
        have hdrops : DropsId i .done id ↔ i = id := ⟨fun h => h.2.2, fun h => ⟨hi, rfl, h⟩⟩
        rw [hdrops, ← hc]
        exact hunref
    | refused =>
        have hdrops : ¬ DropsId i .refused id := fun h => GpuAnswer.noConfusion h.2.1
        rw [and_iff_left hdrops]
        exact hc
    | lost => exact absurd rfl hanswer
  · have hdrops : ¬ DropsId i answer id := fun h => hi h.1
    rw [and_iff_left hdrops]
    exact hc

/-- After an attempt to disable the scanout it shows something only if all attempts failed. -/
theorem disableScanout_showsId {answers : ℕ → GpuAnswer} (hanswers : ∀ n, answers n ≠ .lost)
    (n : ℕ) :
    Triple (fun c => c.host.ShowsId id ↔ p) (setScanoutAttempts ⟨0, 0, 0, 0, 0⟩ answers n)
      fun _ c => c.host.ShowsId id ↔ p ∧ Shows answers n = false := by
  induction n with
  | zero => exact Triple.ret fun c hc => hc.trans (and_iff_left rfl).symm
  | succ n ih =>
      intro c hc
      cases hanswer : answers n with
      | done =>
          have hsent : (setScanoutAttempts ⟨0, 0, 0, 0, 0⟩ answers (n + 1) c).2.host =
              c.host.setScanout ⟨0, 0, 0, 0, 0⟩ := by
            simp only [setScanoutAttempts, hanswer]
            rfl
          have hshows : Shows answers (n + 1) = true := by simp [Shows, hanswer]
          rw [hsent, hshows]
          simp [Host.ShowsId, Host.setScanout]
      | refused =>
          have hshows : Shows answers (n + 1) = Shows answers n := by simp [Shows, hanswer]
          have hsent : setScanoutAttempts ⟨0, 0, 0, 0, 0⟩ answers (n + 1) c =
              setScanoutAttempts ⟨0, 0, 0, 0, 0⟩ answers n c := by
            rw [setScanoutAttempts, hanswer]
            rfl
          rw [hsent, hshows]
          exact ih c hc
      | lost => exact absurd hanswer (hanswers n)

/-- What the teardown leaves on the scanout. -/
theorem virglTeardown_showsId (henv : env.Definite) (c : CardState) :
    (virglTeardown gs env c).2.host.ShowsId gs.fbResourceId ↔ KeepsScanout gs env c.host := by
  have hcontext {p : Prop} : Stable (fun c => c.host.ShowsId gs.fbResourceId ↔ p)
      (chipCtxDestroy gs.virgl2dCtx env.ctxDestroy) :=
    gpuCommand_host (P := fun host => host.ShowsId gs.fbResourceId ↔ p) _ fun _ h => h
  have hall : Triple (fun c' => c'.host.ShowsId gs.fbResourceId ↔ c.host.ShowsId gs.fbResourceId)
      (virglTeardown gs env) fun _ c' => c'.host.ShowsId gs.fbResourceId ↔
        (((c.host.ShowsId gs.fbResourceId ∧ Shows env.setScanout 3 = false) ∧
          ¬ DropsId gs.virgl2dResource env.unref gs.fbResourceId) ∧
          ¬ DropsId gs.virgl2dResource2 env.unref2 gs.fbResourceId) ∧
          ¬ DropsId gs.virgl2dVbufRes env.unrefVbuf gs.fbResourceId := by
    refine Triple.bind (disableScanout_showsId henv.setScanout 3) fun _ => ?_
    refine Triple.bind hcontext fun _ => ?_
    refine Triple.bind (unrefIf_showsId _ henv.unref) fun _ => ?_
    exact Triple.bind (unrefIf_showsId _ henv.unref2) fun _ => unrefIf_showsId _ henv.unrefVbuf
  refine (hall c Iff.rfl).trans ⟨?_, ?_⟩
  · rintro ⟨⟨⟨⟨hshown, hrefused⟩, h₁⟩, h₂⟩, h₃⟩
    exact ⟨hshown, hrefused, h₁, h₂, h₃⟩
  · intro h
    exact ⟨⟨⟨⟨h.shown, h.refused⟩, h.unref⟩, h.unref2⟩, h.unrefVbuf⟩

end Recover

/-- A failed setup leaves the 2D display working, and nothing of its own, exactly when it failed
before the 3D resource existed and its context is gone; a failed recovery, exactly when besides
the 2D resource was shown before and could not be taken off the scanout. -/
theorem virgl_failure_falls_back_iff (gs : GpuState) (c : CardState) :
    (∀ env : VirglEnv, env.Definite gs c.host → gs.resourceId = gs.fbResourceId →
      c.host.ShowsId gs.fbResourceId → (chipVirglInit2d gs env c).1.1 = false →
      (FallenBack c.host (chipVirglInit2d gs env c).1.2 (chipVirglInit2d gs env c).2.host ↔
        gs.FailsEarly env)) ∧
    (∀ env : RecoverEnv, env.Definite →
      env.init.Definite gs.virglCleared (virglTeardown gs env c).2.host →
      (chipVirglRecover2d gs env c).1.1 = false →
      (FallenBack (virglTeardown gs env c).2.host (chipVirglRecover2d gs env c).1.2
          (chipVirglRecover2d gs env c).2.host ↔
        KeepsScanout gs env c.host ∧ gs.virglCleared.FailsEarly env.init)) := by
  constructor
  · intro env henv hid hshown hfalse
    have hiff := chipVirglInit2d_fallenBack_iff henv hid c rfl hfalse
    rwa [and_iff_right hshown] at hiff
  · intro env henv hinit hfalse
    have hiff := chipVirglInit2d_fallenBack_iff hinit rfl (virglTeardown gs env c).2 rfl hfalse
    exact hiff.trans (and_congr_left' (virglTeardown_showsId henv c))

/-- Every command succeeds. -/
def VirglEnv.working : VirglEnv where
  capsValid := true
  ctxCreate := .done
  subContext := true
  ctxDestroy := .done
  create := .done
  attach := .done
  setScanout := fun _ => .done
  create2 := .done
  attach2 := .done
  pipeline := true
  shaders := true
  vertexElements := true
  createVbuf := .done
  bound := true

def RecoverEnv.working : RecoverEnv where
  setScanout := fun _ => .done
  ctxDestroy := .done
  unref := .done
  unref2 := .done
  unrefVbuf := .done
  init := .working

/-- The host refuses to create a context. -/
def RecoverEnv.noContext : RecoverEnv :=
  { RecoverEnv.working with init := { VirglEnv.working with ctxCreate := .refused } }

/-- The 2D display at 640x480, on a card that offers Virgl. -/
def GpuState.virgl640 : GpuState :=
  { GpuState.shown640 with hasVirgl := true, cmd3dBuf := 4, nextCtxId := 1 }

/-- The host creates no 3D resource for the setup, and no context for the recovery. -/
theorem virgl_failure_falls_back_iff_refused :
    (FallenBack CardState.shown640.host
        (chipVirglInit2d .virgl640 { VirglEnv.working with create := .refused } .shown640).1.2
        (chipVirglInit2d .virgl640 { VirglEnv.working with create := .refused } .shown640).2.host ↔
      GpuState.virgl640.FailsEarly { VirglEnv.working with create := .refused }) ∧
    (FallenBack (virglTeardown .virgl640 .noContext .shown640).2.host
        (chipVirglRecover2d .virgl640 .noContext .shown640).1.2
        (chipVirglRecover2d .virgl640 .noContext .shown640).2.host ↔
      KeepsScanout .virgl640 .noContext CardState.shown640.host ∧
        GpuState.virgl640.virglCleared.FailsEarly RecoverEnv.noContext.init) := by
  have hsound := virgl_failure_falls_back_iff .virgl640 .shown640
  constructor
  · refine hsound.1 _ ⟨by decide, by decide, by decide, fun _ => rfl, ?_⟩ rfl (by decide) rfl
    exact fun hcreate => absurd hcreate (by decide)
  · refine hsound.2 _ ⟨fun n => ?_, by decide, by decide, by decide⟩
      ⟨by decide, by decide, by decide, fun _ => rfl, fun _ hlive => ?_⟩ rfl
    · exact fun h => GpuAnswer.noConfusion h
    · have hnone : ¬ (virglTeardown .virgl640 .noContext .shown640).2.host.Live
          GpuState.virgl640.virglCleared.allocId := by
        unfold Host.Live
        decide
      exact hnone hlive

/-- The pipeline objects cannot be created: the 3D resource stays on the host and on the
scanout.  No context for a recovery: nothing is on the scanout. -/
theorem virgl_failure_leaves_resource :
    ¬ ((∀ (gs : GpuState) (c : CardState) (env : VirglEnv), env.Definite gs c.host →
        gs.resourceId = gs.fbResourceId → c.host.ShowsId gs.fbResourceId →
        (chipVirglInit2d gs env c).1.1 = false →
          FallenBack c.host (chipVirglInit2d gs env c).1.2 (chipVirglInit2d gs env c).2.host) ∨
      ∀ (gs : GpuState) (c : CardState) (env : RecoverEnv), env.Definite →
        env.init.Definite gs.virglCleared (virglTeardown gs env c).2.host →
        (chipVirglRecover2d gs env c).1.1 = false →
          FallenBack (virglTeardown gs env c).2.host (chipVirglRecover2d gs env c).1.2
            (chipVirglRecover2d gs env c).2.host) := by
  rintro (hinit | hrecover)
  · have hback := hinit .virgl640 .shown640 { VirglEnv.working with pipeline := false }
      ⟨by decide, by decide, by decide, fun _ => rfl, fun _ => by unfold Host.Live; decide⟩
      rfl (by decide) rfl
    have hid : (3 : UInt32) = 1 := hback.resourceId
    exact absurd hid (by decide)
  · have hback := hrecover .virgl640 .shown640 .noContext
      ⟨fun n h => GpuAnswer.noConfusion h, by decide, by decide, by decide⟩
      ⟨by decide, by decide, by decide, fun _ => rfl, fun _ => by unfold Host.Live; decide⟩ rfl
    obtain ⟨s, hs, -⟩ := hback.shown
    have hnone : (none : Option Scanout) = some s := hs
    exact absurd hnone (Option.some_ne_none s).symm

end VirtIOGPU.Card
