import VirtIOGPU.Compositing.Restore
import VirtIOGPU.Compositing.Setup
import VirtIOGPU.Virgl.Objects
import VirtIOGPU.Virgl.Overflow

/-!
# Runs of the setup

`virgl_submit` sends nothing any more once a submission has failed.  Whatever the setup does about
shaders, samplers and vertex elements that could not be made, what the host gets is therefore always
a beginning of one sequence of submissions, in which no call names an object that is not there
(`setup_follows_plan`).

The proof follows the stages of a setup that goes well (`Stage`); everything that fails leads to
`Stopped`, and nothing leads out of it.

## Strategy

```text
submission that fails     what the code does                     returns
the first objects         stops                                  FALSE
a shader                  notes it, goes on without shaders      FALSE, as binding fails
the samplers              notes it, goes on                      FALSE, as binding fails
the vertex elements       notes it, goes on without them         FALSE, as binding fails
binding the objects       stops                                  FALSE
a blend object            stops the loop over the operators      TRUE
```

In each row the host gets nothing any more from there on: the context is poisoned.

A stage is all that has been sent and noted so far.  A step either reaches the next stage or is
`Stopped`, where what has been sent is a prefix of `setupPlan`; that every call of this sequence
names objects that are there is a property of the sequence alone (`setupPlan_accepted`).
-/

namespace VirtIOGPU.Compositing

open Card Lib.Hoare
open Virgl (VirglCall CString HostObject acceptAll emitted)

/-! ## What has been noted -/

/-- The blend object that is noted for an operator has been made of its row. -/
def Noted (blends : UInt32 → UInt32) (performed : List (List VirglCall)) : Prop :=
  ∀ op, blends op ≠ 0 → blends op = 200 + op ∧
    ∃ row, pdFactors[op.toNat]? = some row ∧ [.createBlend (blends op) 0 row.rt] ∈ performed

theorem Noted.mono {blends : UInt32 → UInt32} {performed more : List (List VirglCall)}
    (h : Noted blends performed) (hmore : performed ⊆ more) : Noted blends more := by
  intro op hop
  obtain ⟨hhandle, row, hrow, hmem⟩ := h op hop
  exact ⟨hhandle, row, hrow, hmore hmem⟩

theorem Noted.drop {blends : UInt32 → UInt32} {performed : List (List VirglCall)}
    (h : Noted blends performed) (dropped : UInt32) :
    Noted (Function.update blends dropped 0) performed := by
  intro op hop
  by_cases heq : op = dropped
  · subst heq
    exact absurd (Function.update_self ..) hop
  · rw [Function.update_of_ne heq] at hop ⊢
    exact h op hop

/-- Sending has come to an end, and until then it has followed the sequence. -/
structure Stopped (target : Target) (s : Setup) : Prop where
  poisoned : s.comp.Poisoned
  performed : s.performed <+: setupPlan target
  noted : Noted s.fields.compBlends s.performed

/-- How far the setup has come. -/
structure Stage where
  performed : List (List VirglCall)
  fields : PipelineFields
  shadersOk : Bool
  ready : Bool
  nextHandle : UInt32

structure Stage.Reached (stage : Stage) (s : Setup) : Prop where
  canSubmit : s.comp.gs.CanSubmit
  performed : s.performed = stage.performed
  fields : s.fields = stage.fields
  shadersOk : s.comp.gs.virglShadersOk = stage.shadersOk
  ready : s.comp.gs.virgl2dReady = stage.ready
  nextHandle : s.comp.nextHandle = stage.nextHandle

def Stage.sent (stage : Stage) (calls : List VirglCall) : Stage :=
  { stage with performed := stage.performed ++ [calls] }

def Stage.set (stage : Stage) (f : PipelineFields → PipelineFields) : Stage :=
  { stage with fields := f stage.fields }

/-- The next submission of the sequence may fail here. -/
structure Stage.Precedes (stage : Stage) (target : Target) (calls : List VirglCall) : Prop where
  next : (stage.sent calls).performed <+: setupPlan target
  noted : Noted stage.fields.compBlends stage.performed
  calls : calls ≠ []

section Steps

variable {target : Target} {stage : Stage} {calls : List VirglCall}

theorem virglSubmit_canSubmit {s : Compositor} (hcan : s.gs.CanSubmit) (hcalls : calls ≠ [])
    (answer : GpuAnswer) :
    virglSubmit calls answer s = match answer with
      | .done => (true, s.ran calls)
      | .refused => (false, s.poisoned)
      | .lost => (false, (s.ran calls).poisoned) := by
  have herror : ¬ s.gs.virglCtxError = true := by rw [hcan.1]; exact Bool.false_ne_true
  have hsubmit : virglSubmit calls answer s =
      markFailure (gpuCommand (fun s => s.ran calls) answer s).1
        (gpuCommand (fun s => s.ran calls) answer s).2 := by
    change (if calls = [] then _ else (_ : Composer Bool)) s = _
    rw [if_neg hcalls]
    change (if s.gs.virglCtxError = true then _ else (_ : Composer Bool)) s = _
    rw [if_neg herror]
    change markFailure ((if s.gs.cmd3dBuf = 0 then _ else (_ : Composer Bool)) s).1
      ((if s.gs.cmd3dBuf = 0 then _ else (_ : Composer Bool)) s).2 = _
    rw [if_neg hcan.2]
  rw [hsubmit]
  cases answer with
  | done => rfl
  | refused => rfl
  | lost => rfl

theorem virglSubmit_poisoned {s : Compositor} (hpoisoned : s.Poisoned) (hcalls : calls ≠ [])
    (answer : GpuAnswer) : virglSubmit calls answer s = (false, s) := by
  change (if calls = [] then _ else (_ : Composer Bool)) s = _
  rw [if_neg hcalls]
  change (if s.gs.virglCtxError = true then _ else (_ : Composer Bool)) s = _
  rw [if_pos (show s.gs.virglCtxError = true from hpoisoned)]
  rfl

theorem submit_stopped (hcalls : calls ≠ []) (answer : GpuAnswer) :
    Triple (Stopped target) (submit calls answer) fun ok s => ok = false ∧ Stopped target s := by
  intro s hs
  have hsubmit := virglSubmit_poisoned hs.poisoned hcalls answer
  have hreaches : ¬ s.comp.Reaches answer := fun h => by
    have hpoisoned : s.comp.gs.virglCtxError = true := hs.poisoned
    rw [h.1] at hpoisoned
    exact Bool.false_ne_true hpoisoned
  have hafter : submit calls answer s = (false, s) := by
    change (_, _) = _
    rw [hsubmit, if_neg hreaches]
  rw [hafter]
  exact ⟨rfl, hs⟩

/-- What the host performs and the driver learns. -/
theorem submit_canSubmit {s : Setup} (hcan : s.comp.gs.CanSubmit) (hcalls : calls ≠ [])
    (answer : GpuAnswer) :
    submit calls answer s = match answer with
      | .done => (true, ⟨s.comp.ran calls, s.fields, s.performed ++ [calls]⟩)
      | .refused => (false, ⟨s.comp.poisoned, s.fields, s.performed⟩)
      | .lost => (false, ⟨(s.comp.ran calls).poisoned, s.fields, s.performed ++ [calls]⟩) := by
  change (_, _) = _
  rw [virglSubmit_canSubmit hcan hcalls]
  cases answer with
  | done =>
      have hreaches : s.comp.Reaches .done := ⟨hcan.1, hcan.2, by decide⟩
      rw [if_pos hreaches]
  | refused =>
      have hreaches : ¬ s.comp.Reaches .refused := fun h => h.2.2 rfl
      rw [if_neg hreaches]
  | lost =>
      have hreaches : s.comp.Reaches .lost := ⟨hcan.1, hcan.2, by decide⟩
      rw [if_pos hreaches]

/-- A submission either succeeds, or is the last one. -/
theorem submit_attempt (h : stage.Precedes target calls) (answer : GpuAnswer) :
    Attempt (Stopped target) stage.Reached (submit calls answer) (stage.sent calls).Reached := by
  refine ⟨fun s hs => ?_, submit_stopped h.calls answer⟩
  have hafter : s.performed ++ [calls] <+: setupPlan target := hs.performed ▸ h.next
  have hnoted : Noted s.fields.compBlends s.performed := hs.fields ▸ hs.performed ▸ h.noted
  rw [submit_canSubmit hs.canSubmit h.calls]
  cases answer with
  | done =>
      refine Or.inl ⟨rfl, hs.canSubmit, ?_, hs.fields, hs.shadersOk, hs.ready, hs.nextHandle⟩
      exact congrArg (· ++ [calls]) hs.performed
  | refused => exact Or.inr ⟨rfl, rfl, (List.prefix_append _ _).trans hafter, hnoted⟩
  | lost => exact Or.inr ⟨rfl, rfl, hafter, hnoted.mono (List.subset_append_left _ _)⟩

/-- Noting anything but a blend object. -/
theorem setFields_stays {f : PipelineFields → PipelineFields}
    (hblends : ∀ fields, (f fields).compBlends = fields.compBlends) :
    Stable (Stopped target) (setFields f) := by
  refine Stable.update fun s hs => ⟨hs.poisoned, hs.performed, ?_⟩
  change Noted (f s.fields).compBlends s.performed
  rw [hblends]
  exact hs.noted

theorem setFields_guarded {f : PipelineFields → PipelineFields}
    (hblends : ∀ fields, (f fields).compBlends = fields.compBlends) :
    Guarded (Stopped target) stage.Reached (setFields f) fun _ => (stage.set f).Reached :=
  Guarded.update
    (fun _ hs => ⟨hs.canSubmit, hs.performed, congrArg f hs.fields, hs.shadersOk, hs.ready,
      hs.nextHandle⟩)
    (setFields_stays hblends)

theorem setShadersOk_guarded (ok : Bool) :
    Guarded (Stopped target) stage.Reached (setShadersOk ok)
      fun _ => Stage.Reached { stage with shadersOk := ok } :=
  Guarded.update
    (fun _ hs => ⟨hs.canSubmit, hs.performed, hs.fields, rfl, hs.ready, hs.nextHandle⟩)
    fun _ hs => ⟨hs.poisoned, hs.performed, hs.noted⟩

theorem ifShadersOk_guarded {m : Assembler PUnit} {Q : PUnit → Setup → Prop}
    (hok : stage.shadersOk = true) (h : Guarded (Stopped target) stage.Reached m Q) :
    Guarded (Stopped target) stage.Reached (ifShadersOk m) Q := by
  refine Guarded.bind Guarded.read fun s => Guarded.ite (h.weaken fun _ hs => hs.2.1) ?_
  refine Guarded.never (Stable.ret _) fun t ht => ht.1 ?_
  obtain ⟨-, ht, rfl⟩ := ht
  exact ht.shadersOk.trans hok

theorem createShader_guarded {handle shaderType : UInt32} {text : CString}
    {record : PipelineFields → PipelineFields} (answer : GpuAnswer)
    (h : stage.Precedes target [.createShader handle shaderType text])
    (hblends : ∀ fields, (record fields).compBlends = fields.compBlends) :
    Guarded (Stopped target) stage.Reached (createShader handle shaderType text record answer)
      fun _ => ((stage.sent [.createShader handle shaderType text]).set record).Reached :=
  (submit_attempt h answer).cases (setFields_guarded hblends).reaches
    (@setShadersOk_guarded _ stage false).stays

end Steps

/-! ## Up to the framebuffer -/

/-- The fields of a pipeline that is complete. -/
def completeFields (blends : UInt32 → UInt32) : PipelineFields :=
  ⟨100, 101, 102, 103, 104, 105, 107, 106, 108, 109, 110, true, blends⟩

section Objects

variable {target : Target} {replies : SetupReplies}

/-- Before the first blend object of an operator. -/
theorem precedes_of_zero {stage : Stage} {calls : List VirglCall}
    (hzero : stage.fields.compBlends = fun _ => 0) (hcalls : calls ≠ [])
    (hnext : stage.performed ++ [calls] <+: setupPlan target) : stage.Precedes target calls :=
  ⟨hnext, fun op hop => absurd (congrFun hzero op) hop, hcalls⟩

theorem createShaders_guarded {stage : Stage} (hfirst : stage.performed = [objectCalls])
    (hzero : stage.fields.compBlends = fun _ => 0) :
    Guarded (Stopped target) stage.Reached (createShaders replies)
      fun _ => Stage.Reached ⟨(objectPlan target).take 4,
        { stage.fields with vs := 104, fs := 105, fsTex := 107 }, true, stage.ready,
        stage.nextHandle⟩ := by
  obtain ⟨performed, fields, ok, ready, nextHandle⟩ := stage
  subst hfirst
  refine Guarded.bind (setShadersOk_guarded true) fun _ => ?_
  refine Guarded.bind (createShader_guarded replies.vs
    (precedes_of_zero hzero (by simp) ⟨_, rfl⟩) fun _ => rfl) fun _ => ?_
  refine Guarded.bind (ifShadersOk_guarded rfl (createShader_guarded replies.fs
    (precedes_of_zero hzero (by simp) ⟨_, rfl⟩) fun _ => rfl)) fun _ => ?_
  refine Guarded.bind (ifShadersOk_guarded rfl (createShader_guarded replies.fsTex
    (precedes_of_zero hzero (by simp) ⟨_, rfl⟩) fun _ => rfl)) fun _ => ?_
  refine Guarded.bind Guarded.read fun s => Guarded.ite ?_ ?_
  · refine Guarded.never (setFields_stays fun _ => rfl) fun t ht => ?_
    obtain ⟨hnot, ht, rfl⟩ := ht
    rw [ht.shadersOk] at hnot
    exact Bool.false_ne_true hnot.symm
  · exact Guarded.ret fun t ht => ht.2.1

theorem createSamplers_guarded {stage : Stage} (hok : stage.shadersOk = true)
    (h : stage.Precedes target samplerCalls) :
    Guarded (Stopped target) stage.Reached (createSamplers replies)
      fun _ => ((stage.sent samplerCalls).set fun f => f.withSamplers 108 109 true).Reached := by
  refine Guarded.bind Guarded.read fun s => Guarded.ite ?_ ?_
  · refine Guarded.bind ((submit_attempt h _).weaken fun t ht => ht.2.1).guarded fun ok => ?_
    cases ok with
    | true =>
        have hset : Guarded (Stopped target) (stage.sent samplerCalls).Reached
            (setFields fun f => f.withSamplers 108 109 true) _ := setFields_guarded fun _ => rfl
        exact hset.weaken fun t ht => ht.2
    | false =>
        exact Guarded.never (setFields_stays fun _ => rfl) fun t ht => absurd ht.1 (by decide)
  · refine Guarded.never (setFields_stays fun _ => rfl) fun t ht => ?_
    obtain ⟨hnot, ht, rfl⟩ := ht
    exact hnot (ht.shadersOk.trans hok)

theorem createVertexElements_guarded {stage : Stage} (hok : stage.shadersOk = true)
    (h : stage.Precedes target vertexElementCalls) :
    Guarded (Stopped target) stage.Reached (createVertexElements replies)
      fun _ => ((stage.sent vertexElementCalls).set fun f => { f with ve := 110 }).Reached := by
  refine ifShadersOk_guarded hok (Guarded.bind (submit_attempt h _).guarded fun ok => ?_)
  cases ok with
  | true =>
      have hset : Guarded (Stopped target) (stage.sent vertexElementCalls).Reached
          (setFields fun f => { f with ve := 110 }) _ := setFields_guarded fun _ => rfl
      exact hset.weaken fun t ht => ht.2
  | false => exact Guarded.never (setFields_stays fun _ => rfl) fun t ht => absurd ht.1 (by decide)

/-- The vertex buffer is a resource, and no failure to create it matters to the context. -/
theorem createVertexBuffer_keeps (answer : GpuAnswer) (c : Compositor) :
    let c' := (createVertexBuffer answer c).2
    c'.gs.virglCtxError = c.gs.virglCtxError ∧ c'.gs.cmd3dBuf = c.gs.cmd3dBuf ∧
      c'.gs.virglShadersOk = c.gs.virglShadersOk ∧ c'.gs.virgl2dReady = c.gs.virgl2dReady ∧
      c'.nextHandle = c.nextHandle := by
  cases answer with
  | done => exact ⟨rfl, rfl, rfl, rfl, rfl⟩
  | refused => exact ⟨rfl, rfl, rfl, rfl, rfl⟩
  | lost => exact ⟨rfl, rfl, rfl, rfl, rfl⟩

theorem createVertexBuffer_guarded {stage : Stage} {P : Setup → Prop} {c : Prop} [Decidable c]
    (answer : GpuAnswer) :
    Guarded (Stopped target) (fun s => stage.Reached s ∧ P s)
      (onlyIf c (onCompositor (createVertexBuffer answer))) fun _ => stage.Reached := by
  have hcreate : Guarded (Stopped target) stage.Reached (onCompositor (createVertexBuffer answer))
      fun _ => stage.Reached := by
    refine Guarded.transition (fun s hs => ?_) fun s hs => ⟨?_, hs.performed, hs.noted⟩
    · obtain ⟨herror, hbuf, hshaders, hready, hnext⟩ := createVertexBuffer_keeps answer s.comp
      exact ⟨⟨herror.trans hs.canSubmit.1, fun h => hs.canSubmit.2 (hbuf.symm.trans h)⟩,
        hs.performed, hs.fields, hshaders.trans hs.shadersOk, hready.trans hs.ready,
        hnext.trans hs.nextHandle⟩
    · exact (createVertexBuffer_keeps answer s.comp).1.trans hs.poisoned
  exact Guarded.ite (hcreate.weaken fun s hs => hs.2.1) (Guarded.ret fun s hs => hs.2.1)

theorem bindCalls_ne_nil (ok : Bool) (ve : UInt32) : bindCalls target ok ve ≠ [] := by
  simp [bindCalls]

/-- The last submission binds what has been made. -/
theorem bindCalls_attempt {stage : Stage} (hok : stage.shadersOk = true)
    (hve : stage.fields.ve = 110) (h : stage.Precedes target (bindCalls target true 110))
    (answer : GpuAnswer) :
    Attempt (Stopped target) stage.Reached
      (get >>= fun s => submit (bindCalls target s.comp.gs.virglShadersOk s.fields.ve) answer)
      (stage.sent (bindCalls target true 110)).Reached := by
  refine Attempt.bind Guarded.read fun s => ⟨?_, submit_stopped (bindCalls_ne_nil _ _) answer⟩
  rintro t ⟨ht, rfl⟩
  rw [ht.shadersOk, ht.fields, hok, hve]
  exact (submit_attempt h answer).tries s ht

/-- Either everything up to the framebuffer is there, or nothing is sent any more. -/
theorem setupObjects_attempt {fields : PipelineFields} (hzero : fields.compBlends = fun _ => 0)
    (ok : Bool) :
    Attempt (Stopped target) (Stage.Reached ⟨[], fields, ok, false, 200⟩)
      (setupObjects replies target)
      (Stage.Reached ⟨objectPlan target, completeFields fun _ => 0, true, false, 200⟩) := by
  have hfields : completeFields (fun _ => 0) = completeFields fields.compBlends := by rw [hzero]
  rw [hfields]
  refine Attempt.bind (setFields_guarded fun _ => rfl) fun _ => ?_
  refine (submit_attempt (precedes_of_zero hzero (by simp [objectCalls]) ⟨_, rfl⟩) _).orReturn ?_
  refine (Attempt.bind (createShaders_guarded rfl hzero) fun _ => ?_).tries
  refine Attempt.bind (createSamplers_guarded rfl
    (precedes_of_zero hzero (by simp [samplerCalls]) ⟨_, rfl⟩)) fun _ => ?_
  refine Attempt.bind (createVertexElements_guarded rfl
    (precedes_of_zero hzero (by simp [vertexElementCalls]) ⟨_, rfl⟩)) fun _ => ?_
  refine Attempt.bind Guarded.read fun s => ?_
  refine Attempt.bind (createVertexBuffer_guarded _) fun _ => ?_
  refine Attempt.bind (setFields_guarded fun _ => rfl) fun _ => ?_
  exact bindCalls_attempt rfl rfl
    (precedes_of_zero hzero (bindCalls_ne_nil _ _) ⟨_, rfl⟩) replies.bind

end Objects

/-! ## The blend objects -/

/-- The handles when the operators before `n` have an object. -/
def blendsUpTo (n : ℕ) : UInt32 → UInt32 := fun op => if op.toNat < n then 200 + op else 0

def blendStage (target : Target) (n : ℕ) : Stage :=
  ⟨objectPlan target ++ blendPlan 200 (pdFactors.take n), completeFields (blendsUpTo n), true, true,
    200 + UInt32.ofNat n⟩

theorem blendsUpTo_succ {n : ℕ} (hn : n < 2 ^ 32) :
    Function.update (blendsUpTo n) (UInt32.ofNat n) (200 + UInt32.ofNat n) =
      blendsUpTo (n + 1) := by
  funext op
  by_cases hop : op = UInt32.ofNat n
  · subst hop
    have htoNat : (UInt32.ofNat n).toNat = n := UInt32.toNat_ofNat_of_lt' hn
    rw [Function.update_self, blendsUpTo, if_pos (by omega)]
  · have hne : op.toNat ≠ n := by
      rintro rfl
      exact hop (UInt32.ofNat_toNat).symm
    rw [Function.update_of_ne hop, blendsUpTo, blendsUpTo]
    by_cases hlt : op.toNat < n
    · rw [if_pos hlt, if_pos (by omega)]
    · rw [if_neg hlt, if_neg (by omega)]

theorem blendPlan_append (first second : List FactorRow) (handle : UInt32) :
    blendPlan handle (first ++ second) =
      blendPlan handle first ++ blendPlan (handle + UInt32.ofNat first.length) second := by
  induction first generalizing handle with
  | nil => simp [blendPlan]
  | cons row rest ih =>
      have hnext : handle + UInt32.ofNat (rest.length + 1) =
          handle + 1 + UInt32.ofNat rest.length := by
        rw [UInt32.ofNat_add, UInt32.add_assoc, UInt32.add_comm (UInt32.ofNat rest.length)]
        rfl
      rw [List.cons_append, blendPlan, blendPlan, ih, List.cons_append, List.length_cons, hnext]

theorem blendPlan_drop {rows : List FactorRow} {row : FactorRow} {n : ℕ}
    (hrow : rows[n]? = some row) (handle : UInt32) :
    blendPlan handle (rows.take (n + 1)) =
      blendPlan handle (rows.take n) ++ [[.createBlend (handle + UInt32.ofNat n) 0 row.rt]] := by
  have hlt : n < rows.length := (List.getElem?_eq_some_iff.mp hrow).1
  rw [List.take_add_one, hrow, Option.toList_some, blendPlan_append, List.length_take,
    Nat.min_eq_left hlt.le]
  rfl

theorem blendStage_next (target : Target) {n : ℕ} {row : FactorRow}
    (hrow : pdFactors[n]? = some row) :
    (blendStage target (n + 1)).performed =
      (blendStage target n).performed ++ [[.createBlend (200 + UInt32.ofNat n) 0 row.rt]] := by
  change objectPlan target ++ _ = (objectPlan target ++ _) ++ _
  rw [blendPlan_drop hrow, List.append_assoc]

/-- Every operator before `n` has the object of its row. -/
theorem blendsUpTo_noted (target : Target) {n : ℕ} (hn : n ≤ pdFactors.length) :
    Noted (blendsUpTo n) (blendStage target n).performed := by
  induction n with
  | zero =>
      intro op hop
      exact absurd rfl hop
  | succ n ih =>
      intro op hop
      have hrow := List.getElem?_eq_getElem hn
      rw [blendStage_next target hrow]
      by_cases hlt : op.toNat < n
      · have hsame : blendsUpTo (n + 1) op = blendsUpTo n op := by
          rw [blendsUpTo, blendsUpTo, if_pos hlt, if_pos (by omega)]
        rw [hsame] at hop ⊢
        exact (ih (by omega)).mono (List.subset_append_left _ _) op hop
      · have hop' : op.toNat = n := by
          by_contra hne
          exact hop (if_neg (by omega))
        have hhandle : blendsUpTo (n + 1) op = 200 + op := if_pos (by omega)
        have hof : op = UInt32.ofNat n := by rw [← hop', UInt32.ofNat_toNat]
        rw [hhandle]
        refine ⟨rfl, _, by rw [hop']; exact hrow, List.mem_append_right _ ?_⟩
        rw [← hof]
        exact List.mem_singleton_self _

section Blends

variable {target : Target} {replies : SetupReplies}

theorem blendStage_prefix (target : Target) (n : ℕ) :
    (blendStage target n).performed <+: setupPlan target := by
  refine (List.prefix_append_right_inj _).mpr ?_
  have hsplit := blendPlan_append (pdFactors.take n) (pdFactors.drop n) 200
  rw [List.take_append_drop] at hsplit
  exact ⟨_, hsplit.symm⟩

/-- The handle of the next blend object. -/
theorem compAllocHandle_guarded {n : ℕ} (hn : n < pdFactors.length) :
    Guarded (Stopped target) (blendStage target n).Reached (onCompositor compAllocHandle)
      fun handle s => handle = 200 + UInt32.ofNat n ∧
        Stage.Reached { blendStage target n with nextHandle := 200 + UInt32.ofNat (n + 1) } s := by
  refine Guarded.transition (fun s hs => ⟨hs.nextHandle, hs.canSubmit, hs.performed, hs.fields,
    hs.shadersOk, hs.ready, ?_⟩) fun s hs => ⟨hs.poisoned, hs.performed, hs.noted⟩
  have hnext : s.comp.nextHandle = 200 + UInt32.ofNat n := hs.nextHandle
  change s.comp.handleTaken.nextHandle = 200 + UInt32.ofNat (n + 1)
  have hsucc : (200 : UInt32) + UInt32.ofNat n + 1 = 200 + UInt32.ofNat (n + 1) := by
    rw [UInt32.ofNat_add, UInt32.add_assoc]
    rfl
  have hne : (200 : UInt32) + UInt32.ofNat (n + 1) ≠ 0 := by
    change n < 13 at hn
    interval_cases n <;> decide
  rw [Compositor.nextHandle, Compositor.handleTaken, hnext, hsucc, if_neg hne]

/-- The object of an operator, under the handle that has been given out for it. -/
theorem createBlend_attempt {stage : Stage} {n : ℕ} {row : FactorRow} (handle : UInt32)
    (h : stage.Precedes target [.createBlend (200 + UInt32.ofNat n) 0 row.rt])
    (answer : GpuAnswer) :
    Attempt (Stopped target) (fun s => handle = 200 + UInt32.ofNat n ∧ stage.Reached s)
      (submit [.createBlend handle 0 row.rt] answer)
      fun s => handle = 200 + UInt32.ofNat n ∧
        (stage.sent [.createBlend (200 + UInt32.ofNat n) 0 row.rt]).Reached s := by
  refine ⟨?_, submit_stopped (by simp) answer⟩
  rintro s ⟨rfl, hs⟩
  exact ((submit_attempt h answer).tries s hs).imp_left fun hok => ⟨hok.1, rfl, hok.2⟩

theorem createBlends_guarded {rows : List FactorRow} {n : ℕ} (hn : n ≤ pdFactors.length)
    (hrows : pdFactors.drop n = rows) :
    Guarded (Stopped target) (blendStage target n).Reached (createBlends replies n rows)
      fun _ => (blendStage target pdFactors.length).Reached := by
  induction rows generalizing n with
  | nil =>
      obtain rfl : n = pdFactors.length := hn.antisymm (List.drop_eq_nil_iff.mp hrows)
      exact Guarded.ret fun s hs => hs
  | cons row rest ih =>
      have hlt : n < pdFactors.length := by
        by_contra hge
        rw [List.drop_eq_nil_of_le (by omega)] at hrows
        exact List.cons_ne_nil _ _ hrows.symm
      have hdrop := List.drop_eq_getElem_cons hlt
      rw [hrows] at hdrop
      obtain ⟨hrow, hrest⟩ := List.cons.inj hdrop
      have hget : pdFactors[n]? = some row := by rw [hrow, List.getElem?_eq_getElem hlt]
      have hperformed := blendStage_next target hget
      refine Guarded.bind (compAllocHandle_guarded hlt) fun handle => ?_
      refine (createBlend_attempt handle ⟨?_, blendsUpTo_noted target hn, by simp⟩ _).cases ?_
        (Stable.ret _)
      · change (blendStage target n).performed ++ _ <+: _
        rw [← hperformed]
        exact blendStage_prefix target (n + 1)
      rintro s ⟨rfl, hs⟩
      refine (ih hlt hrest.symm).reaches _ ⟨hs.canSubmit, ?_, ?_, hs.shadersOk, hs.ready,
        hs.nextHandle⟩
      · exact hs.performed.trans hperformed.symm
      · have hupdate := blendsUpTo_succ (hlt.trans (by decide : pdFactors.length < 2 ^ 32))
        change PipelineFields.mk .. = completeFields (blendsUpTo (n + 1))
        rw [← hupdate, hs.fields]
        rfl

theorem blendsUpTo_dropped {n : ℕ} {op : UInt32} (hop : n ≤ op.toNat) :
    Function.update (blendsUpTo n) op 0 = blendsUpTo n := by
  have hzero : blendsUpTo n op = 0 := if_neg (by omega)
  rw [← hzero, Function.update_eq_self]

theorem chipCompInitBlends_guarded :
    Guarded (Stopped target) (blendStage target 0).Reached (chipCompInitBlends replies)
      fun _ => (blendStage target pdFactors.length).Reached := by
  refine Guarded.bind Guarded.read fun s => Guarded.ite ?_ ?_
  · refine Guarded.never (Stable.ret _) fun t ht => ?_
    obtain ⟨hnot, ht, rfl⟩ := ht
    rw [ht.ready] at hnot
    exact Bool.false_ne_true hnot.symm
  refine Guarded.bind ((createBlends_guarded (Nat.zero_le _) rfl).weaken fun t ht => ht.2.1)
    fun ok => Guarded.bind (Guarded.update (fun t ht => ?_) fun t ht => ?_)
      fun _ => Guarded.ret fun t ht => ht
  · refine ⟨ht.canSubmit, ht.performed, ?_, ht.shadersOk, ht.ready, ht.nextHandle⟩
    have hmax : Function.update (blendsUpTo 13) 13 0 = blendsUpTo 13 :=
      blendsUpTo_dropped (by decide)
    have hmin : Function.update (blendsUpTo 13) 14 0 = blendsUpTo 13 :=
      blendsUpTo_dropped (by decide)
    rw [ht.fields]
    change completeFields (Function.update (Function.update (blendsUpTo 13) 13 0) 14 0) = _
    rw [hmax, hmin]
    rfl
  · exact ⟨ht.poisoned, ht.performed, (ht.noted.drop 13).drop 14⟩

end Blends

/-! ## What a submission leaves alone -/

section Keeps

variable {calls : List VirglCall} {replies : SetupReplies} {target : Target} {flags : Bool × Bool}

/-- `virgl_2d_ready` and `virgl_shaders_ok`. -/
def Compositor.Flagged (flags : Bool × Bool) (c : Compositor) : Prop :=
  (c.gs.virgl2dReady, c.gs.virglShadersOk) = flags

theorem virglSubmit_flagged (answer : GpuAnswer) :
    Stable (Compositor.Flagged flags) (virglSubmit calls answer) := by
  refine Stable.ite (Stable.ret _) (Stable.bind Stable.read fun s => Stable.ite (Stable.ret _) ?_)
  refine Stable.bind (Stable.bind Stable.read fun s => Stable.ite (Stable.ret _) ?_) fun ok => ?_
  · intro s hs
    cases answer with
    | done => exact hs
    | refused => exact hs
    | lost => exact hs
  · exact Stable.bind (Stable.onlyIf (Stable.update fun _ hs => hs)) fun _ => Stable.ret _

/-- What is there already stays there. -/
structure Setup.Complete (target : Target) (s : Setup) : Prop where
  flags : s.comp.Flagged (true, true)
  fields : s.fields = completeFields s.fields.compBlends
  performed : objectPlan target <+: s.performed

theorem submit_complete (answer : GpuAnswer) :
    Stable (Setup.Complete target) (submit calls answer) := by
  refine fun s hs => ⟨virglSubmit_flagged answer s.comp hs.flags, hs.fields, ?_⟩
  change _ <+: if s.comp.Reaches answer then s.performed ++ [calls] else s.performed
  split
  · exact hs.performed.trans (List.prefix_append _ _)
  · exact hs.performed

theorem setBlends_complete (f : (UInt32 → UInt32) → UInt32 → UInt32) :
    Stable (Setup.Complete target)
      (setFields fun fields => { fields with compBlends := f fields.compBlends }) := by
  refine Stable.update fun s hs => ⟨hs.flags, ?_, hs.performed⟩
  change PipelineFields.mk .. = _
  rw [hs.fields]
  rfl

theorem createBlends_complete (rows : List FactorRow) (op : ℕ) :
    Stable (Setup.Complete target) (createBlends replies op rows) := by
  induction rows generalizing op with
  | nil => exact Stable.ret _
  | cons row rest ih =>
      refine Stable.bind (Stable.transition fun s hs => ⟨hs.flags, hs.fields, hs.performed⟩)
        fun handle => Stable.bind (submit_complete _) fun ok => Stable.ite ?_ (Stable.ret _)
      have hset := @setBlends_complete target
        fun blends => Function.update blends (UInt32.ofNat op) handle
      exact Stable.bind hset fun _ => ih (op + 1)

theorem chipCompInitBlends_complete :
    Stable (Setup.Complete target) (chipCompInitBlends replies) := by
  refine Stable.bind Stable.read fun s => Stable.ite (Stable.ret _) ?_
  refine Stable.bind (createBlends_complete _ _) fun ok => Stable.bind ?_ fun _ => Stable.ret _
  exact setBlends_complete fun blends => Function.update (Function.update blends 13 0) 14 0

/-- `virgl_2d_ready`. -/
def Setup.Ready (ready : Bool) (s : Setup) : Prop := s.comp.gs.virgl2dReady = ready

variable {ready : Bool}

theorem submit_ready (answer : GpuAnswer) : Stable (Setup.Ready ready) (submit calls answer) := by
  intro s hs
  have hflags : s.comp.Flagged (ready, s.comp.gs.virglShadersOk) := Prod.ext hs rfl
  exact congrArg Prod.fst (virglSubmit_flagged answer s.comp hflags)

theorem createShader_ready (handle shaderType : UInt32) (text : CString)
    (record : PipelineFields → PipelineFields) (answer : GpuAnswer) :
    Stable (Setup.Ready ready) (createShader handle shaderType text record answer) :=
  Stable.bind (submit_ready answer) fun _ =>
    Stable.ite (Stable.update fun _ hs => hs) (Stable.update fun _ hs => hs)

theorem ifShadersOk_ready {m : Assembler PUnit} (h : Stable (Setup.Ready ready) m) :
    Stable (Setup.Ready ready) (ifShadersOk m) :=
  Stable.bind Stable.read fun _ => Stable.onlyIf h

theorem createVertexBuffer_ready (answer : GpuAnswer) :
    Stable (Setup.Ready ready) (onCompositor (createVertexBuffer answer)) :=
  fun s hs => (createVertexBuffer_keeps answer s.comp).2.2.2.1.trans hs

theorem setupObjects_ready : Stable (Setup.Ready ready) (setupObjects replies target) := by
  have hset (f : PipelineFields → PipelineFields) : Stable (Setup.Ready ready) (setFields f) :=
    Stable.update fun _ hs => hs
  have hshaders : Stable (Setup.Ready ready) (createShaders replies) := by
    refine Stable.bind (Stable.update fun _ hs => hs) fun _ => ?_
    refine Stable.bind (createShader_ready _ _ _ _ _) fun _ => ?_
    refine Stable.bind (ifShadersOk_ready (createShader_ready _ _ _ _ _)) fun _ => ?_
    refine Stable.bind (ifShadersOk_ready (createShader_ready _ _ _ _ _)) fun _ => ?_
    exact Stable.bind Stable.read fun _ => Stable.onlyIf (hset _)
  have hsamplers : Stable (Setup.Ready ready) (createSamplers replies) :=
    Stable.bind Stable.read fun _ =>
      Stable.ite (Stable.bind (submit_ready _) fun _ => hset _) (hset _)
  have hve : Stable (Setup.Ready ready) (createVertexElements replies) :=
    ifShadersOk_ready (Stable.bind (submit_ready _) fun _ => hset _)
  refine Stable.bind (hset _) fun _ => Stable.bind (submit_ready _) fun _ =>
    Stable.ite (Stable.ret _) (Stable.bind hshaders fun _ => Stable.bind hsamplers fun _ =>
      Stable.bind hve fun _ => Stable.bind Stable.read fun _ => ?_)
  exact Stable.bind (Stable.onlyIf (createVertexBuffer_ready _)) fun _ =>
    Stable.bind (hset _) fun _ => Stable.bind Stable.read fun _ => submit_ready _

end Keeps

/-! ## What the host has -/

section Plan

variable {target : Target}

/-- The objects of the pipeline, as they are noted. -/
def PipelineFields.hostObjects (f : PipelineFields) : List HostObject :=
  [⟨objectBlend, f.blend⟩, ⟨objectBlend, f.blendAlpha⟩, ⟨objectDsa, f.dsa⟩,
    ⟨objectRasterizer, f.rast⟩, ⟨4, f.vs⟩, ⟨4, f.fs⟩, ⟨8, f.surface⟩, ⟨4, f.fsTex⟩, ⟨7, f.sampler⟩,
    ⟨7, f.samplerLinear⟩, ⟨objectVertexElements, f.ve⟩]

/-- Which objects are used does not depend on the size of the display. -/
theorem setupPlan_uses (target other : Target) :
    (setupPlan target).flatten.map VirglCall.use = (setupPlan other).flatten.map VirglCall.use :=
  rfl

theorem setupPlan_accepted (target : Target) :
    (acceptAll [] (setupPlan target).flatten).isSome := by
  rw [acceptAll, setupPlan_uses target ⟨0, 0, 0, 0, 0, 0⟩]
  decide +kernel

theorem setupPlan_keeps (target : Target) :
    ∀ use ∈ (setupPlan target).flatten.map VirglCall.use, use.destroys = none := by
  rw [setupPlan_uses target ⟨0, 0, 0, 0, 0, 0⟩]
  decide +kernel

theorem objectPlan_creates (target : Target) (blends : UInt32 → UInt32) :
    ∀ object ∈ (completeFields blends).hostObjects,
      ∃ calls ∈ objectPlan target, ∃ call ∈ calls, call.creates = some object := by
  have huses : (objectPlan target).flatten.map VirglCall.use =
      (objectPlan ⟨0, 0, 0, 0, 0, 0⟩).flatten.map VirglCall.use := rfl
  have hall : ∀ object ∈ (completeFields fun _ => 0).hostObjects,
      ∃ use ∈ (objectPlan target).flatten.map VirglCall.use, use.creates = some object := by
    rw [huses]
    decide +kernel
  intro object hobject
  obtain ⟨use, huse, hcreates⟩ := hall object hobject
  obtain ⟨call, hcall, rfl⟩ := List.mem_map.mp huse
  obtain ⟨calls, hcalls, hmem⟩ := List.mem_flatten.mp hcall
  exact ⟨calls, hcalls, call, hmem, hcreates⟩

/-- The host takes no second shader in one submission, and finds all words of it. -/
structure Sendable (room : ℕ) (calls : List VirglCall) : Prop where
  shaders : (calls.countP fun call => call.cmd = 1 ∧ call.obj = 4) ≤ 1
  fits : (emitted calls).length ≤ room

theorem objectPlan_sendable : ∀ calls ∈ objectPlan target, Sendable 512 calls := by
  have hbefore : ∀ calls ∈ (objectPlan target).take 6, Sendable 512 calls := by
    have hall : ∀ calls ∈ (objectPlan ⟨0, 0, 0, 0, 0, 0⟩).take 6,
        (calls.countP fun call => call.cmd = 1 ∧ call.obj = 4) ≤ 1 ∧
          (emitted calls).length ≤ 512 := by
      decide +kernel
    exact fun calls hcalls => ⟨(hall calls hcalls).1, (hall calls hcalls).2⟩
  have hbind : Sendable 512 (bindCalls target true 110) := by
    have hshaders : ((bindCalls target true 110).countP fun call => call.cmd = 1 ∧ call.obj = 4) =
        (bindCalls ⟨0, 0, 0, 0, 0, 0⟩ true 110).countP fun call => call.cmd = 1 ∧ call.obj = 4 :=
      rfl
    have hwords : (emitted (bindCalls target true 110)).length =
        (emitted (bindCalls ⟨0, 0, 0, 0, 0, 0⟩ true 110)).length := rfl
    refine ⟨?_, ?_⟩
    · rw [hshaders]
      decide +kernel
    · rw [hwords]
      decide +kernel
  have hsplit : objectPlan target = (objectPlan target).take 6 ++ [bindCalls target true 110] := rfl
  intro calls hcalls
  rw [hsplit, List.mem_append, List.mem_singleton] at hcalls
  rcases hcalls with hcalls | rfl
  · exact hbefore calls hcalls
  · exact hbind

theorem blendPlan_sendable (rows : List FactorRow) (handle : UInt32) :
    ∀ calls ∈ blendPlan handle rows, Sendable 16 calls := by
  induction rows generalizing handle with
  | nil =>
      intro calls hcalls
      exact absurd hcalls List.not_mem_nil
  | cons row rest ih =>
      intro calls hcalls
      rcases List.mem_cons.mp hcalls with rfl | hcalls
      · exact ⟨of_decide_eq_true rfl, of_decide_eq_true rfl⟩
      · exact ih _ calls hcalls

/-- An operator whose object has been noted. -/
theorem operator_of_row {op : UInt32} {row : FactorRow} (hrow : pdFactors[op.toNat]? = some row) :
    ∃ p : PDOperator, p.code = op.toNat ∧ readBlend row.rt = some p.blend := by
  have hop : op.toNat < 13 := (List.getElem?_eq_some_iff.mp hrow).1
  have hcode : ∃ p : PDOperator, p.code = op.toNat := by
    generalize op.toNat = n at hop
    interval_cases n
    · exact ⟨.clear, rfl⟩
    · exact ⟨.src, rfl⟩
    · exact ⟨.dest, rfl⟩
    · exact ⟨.srcOverDest, rfl⟩
    · exact ⟨.destOverSrc, rfl⟩
    · exact ⟨.srcInDest, rfl⟩
    · exact ⟨.destInSrc, rfl⟩
    · exact ⟨.srcOutDest, rfl⟩
    · exact ⟨.destOutSrc, rfl⟩
    · exact ⟨.srcAtopDest, rfl⟩
    · exact ⟨.destAtopSrc, rfl⟩
    · exact ⟨.srcXorDest, rfl⟩
    · exact ⟨.plus, rfl⟩
  obtain ⟨p, hp⟩ := hcode
  obtain ⟨row', hget, hread⟩ := readBlend_pdFactors p
  rw [hp, hrow, Option.some.injEq] at hget
  exact ⟨p, hp, hget ▸ hread⟩

end Plan

/-! ## The whole -/

/-- As `chip_virgl_recover_2d` and the first steps of `chip_virgl_init_2d` leave it. -/
structure Setup.Fresh (s : Setup) : Prop where
  canSubmit : s.comp.gs.CanSubmit
  ready : s.comp.gs.virgl2dReady = false
  nextHandle : s.comp.compNextHandle = 0
  blends : s.fields.compBlends = fun _ => 0
  performed : s.performed = []

section Whole

variable {target : Target} {replies : SetupReplies} {s : Setup}

/-- How the setup may end. -/
inductive Setup.Ended (target : Target) (s : Setup) : Bool → Prop where
  | failed (hready : s.comp.gs.virgl2dReady = false) (hstopped : Stopped target s) :
      Ended target s false
  | stopped (hcomplete : s.Complete target) (hstopped : Stopped target s) : Ended target s true
  | whole (hall : (blendStage target pdFactors.length).Reached s) : Ended target s true

theorem setupObjects_ended : Triple Setup.Fresh (setupObjects replies target) fun ok t =>
    ok = true ∧ Stage.Reached ⟨objectPlan target, completeFields fun _ => 0, true, false, 200⟩ t ∨
      ok = false ∧ t.Ended target false := by
  intro s hs
  have hnext : s.comp.nextHandle = 200 := if_pos hs.nextHandle
  have hattempt : Attempt (Stopped target) _ (setupObjects replies target) _ :=
    setupObjects_attempt hs.blends s.comp.gs.virglShadersOk
  have htries := hattempt.tries s ⟨hs.canSubmit, hs.performed, rfl, rfl, hs.ready, hnext⟩
  exact htries.imp_right fun h => ⟨h.1, .failed (setupObjects_ready s hs.ready) h.2⟩

/-- With the flag set, the blend objects are made. -/
theorem ready_blendStage :
    Triple (Stage.Reached ⟨objectPlan target, completeFields fun _ => 0, true, false, 200⟩)
      (onCompositor (modify fun s => s.withGs (s.gs.withVirglReady true)))
      fun _ => (blendStage target 0).Reached := by
  intro s hs
  refine ⟨hs.canSubmit, hs.performed.trans (List.append_nil _).symm, hs.fields.trans ?_,
    hs.shadersOk, rfl, hs.nextHandle⟩
  have hnone : blendsUpTo 0 = fun _ => 0 := funext fun op => if_neg (Nat.not_lt_zero _)
  change _ = completeFields (blendsUpTo 0)
  rw [hnone]

theorem Stage.Reached.complete {n : ℕ} (h : (blendStage target n).Reached s) :
    s.Complete target := by
  refine ⟨Prod.ext h.ready h.shadersOk, ?_, ?_⟩
  · rw [h.fields]
    rfl
  · rw [h.performed]
    exact List.prefix_append _ _

theorem setupPipeline_ended : Triple Setup.Fresh (setupPipeline replies target) fun ok t =>
    t.Ended target ok := by
  refine Triple.bind setupObjects_ended fun bound => Triple.ite (fun hnot => ?_) fun hbound => ?_
  · refine Triple.ret fun t ht => ?_
    rcases ht with ⟨rfl, -⟩ | ⟨-, ht⟩
    · exact absurd hnot (by decide)
    · exact ht
  have hreached : Triple (fun t => bound = true ∧
      Stage.Reached ⟨objectPlan target, completeFields fun _ => 0, true, false, 200⟩ t ∨
      bound = false ∧ t.Ended target false)
      (onCompositor (modify fun s => s.withGs (s.gs.withVirglReady true)))
      fun _ => (blendStage target 0).Reached := by
    refine ready_blendStage.weaken fun t ht => ?_
    rcases ht with ⟨-, ht⟩ | ⟨rfl, -⟩
    · exact ht
    · exact absurd rfl hbound
  refine Triple.bind hreached fun _ => Triple.bind (fun t ht => ?_) fun _ =>
    Triple.ret fun t ht => ht
  rcases chipCompInitBlends_guarded.reaches t ht with hall | hstopped
  · exact .whole hall
  · exact .stopped (chipCompInitBlends_complete t ht.complete) hstopped

/-- What is noted is there, in whatever way the setup has ended. -/
theorem Setup.Ended.followed {ok : Bool} (h : s.Ended target ok) :
    s.performed <+: setupPlan target ∧ Noted s.fields.compBlends s.performed := by
  cases h with
  | failed hready hstopped => exact ⟨hstopped.performed, hstopped.noted⟩
  | stopped hcomplete hstopped => exact ⟨hstopped.performed, hstopped.noted⟩
  | whole hall =>
      refine ⟨?_, ?_⟩
      · rw [hall.performed]
        exact blendStage_prefix target _
      · rw [hall.fields, hall.performed]
        exact blendsUpTo_noted target le_rfl

theorem Setup.Ended.whole_of_clean {ok : Bool} (h : s.Ended target ok)
    (hclean : ¬ s.comp.Poisoned) :
    ok = true ∧ s.performed = setupPlan target ∧ s.fields = completeFields (blendsUpTo 13) := by
  cases h with
  | failed hready hstopped => exact absurd hstopped.poisoned hclean
  | stopped hcomplete hstopped => exact absurd hstopped.poisoned hclean
  | whole hall =>
      have hperformed := hall.performed
      change s.performed = _ ++ blendPlan 200 (pdFactors.take pdFactors.length) at hperformed
      rw [List.take_length] at hperformed
      exact ⟨rfl, hperformed, hall.fields⟩

theorem Setup.Ended.complete {ok : Bool} (h : s.Ended target ok) (hok : ok = true) :
    s.Complete target := by
  cases h with
  | failed hready hstopped => exact absurd hok (by decide)
  | stopped hcomplete hstopped => exact hcomplete
  | whole hall => exact hall.complete

theorem Setup.Ended.ready_iff {ok : Bool} (h : s.Ended target ok) :
    ok = true ↔ s.comp.gs.virgl2dReady = true := by
  refine ⟨fun hok => congrArg Prod.fst (h.complete hok).flags, fun hready => ?_⟩
  cases h with
  | failed hnot hstopped => exact absurd (hnot.symm.trans hready) (by decide)
  | stopped hcomplete hstopped => rfl
  | whole hall => rfl

/-- The objects of the host after what it has performed. -/
theorem table_of_prefix {performed : List (List VirglCall)} (h : performed <+: setupPlan target) :
    ∃ table, acceptAll [] performed.flatten = some table ∧
      ∀ calls ∈ performed, ∀ call ∈ calls, ∀ object, call.creates = some object →
        object ∈ table := by
  have hflatten : performed.flatten <+: (setupPlan target).flatten := by
    obtain ⟨rest, hrest⟩ := h
    exact ⟨rest.flatten, by rw [← List.flatten_append, hrest]⟩
  obtain ⟨table, htable⟩ := Option.isSome_iff_exists.mp
    (Virgl.acceptAll_beginning hflatten (setupPlan_accepted target))
  refine ⟨table, htable, fun calls hcalls call hcall object hcreates => ?_⟩
  refine Virgl.created_live (fun use huse => ?_) htable
    (Or.inr ⟨call.use, List.mem_map_of_mem (List.mem_flatten_of_mem hcalls hcall), hcreates⟩)
  exact setupPlan_keeps target use ((hflatten.map _).subset huse)

/-- The sequence is the same whatever fails, and the host has a beginning of it: all of it, unless
the context is in error.  Every call of it is accepted.  `TRUE` is returned if and only if
`virgl_2d_ready` is set, and then the objects of the pipeline are there, as they are noted; and so
are those that are noted for operators, made of the words of the operators.  No submission holds two
shaders, and none is longer than its buffer. -/
theorem setup_follows_plan (replies : SetupReplies) (target : Target) {s : Setup} (hs : s.Fresh) :
    let run := setupPipeline replies target s
    run.2.performed <+: setupPlan target ∧
      (¬ run.2.comp.Poisoned → run.1 = true ∧ run.2.performed = setupPlan target ∧
        run.2.fields = completeFields (blendsUpTo 13)) ∧
      (run.1 = true ↔ run.2.comp.gs.virgl2dReady = true) ∧
      (∃ table, acceptAll [] run.2.performed.flatten = some table ∧
        (run.1 = true → run.2.comp.gs.virglShadersOk = true ∧
          run.2.fields = completeFields run.2.fields.compBlends ∧
          ∀ object ∈ run.2.fields.hostObjects, object ∈ table) ∧
        ∀ op, run.2.fields.compBlends op ≠ 0 →
          ⟨objectBlend, run.2.fields.compBlends op⟩ ∈ table ∧
            ∃ p : PDOperator, p.code = op.toNat ∧ ∃ word, readBlend word = some p.blend ∧
              .createBlend (run.2.fields.compBlends op) 0 word ∈ run.2.performed.flatten) ∧
      ∀ calls ∈ run.2.performed, (calls ∈ objectPlan target ∧ Sendable 512 calls) ∨
        (calls ∈ blendPlan 200 pdFactors ∧ Sendable 16 calls) := by
  intro run
  have hended : run.2.Ended target run.1 := setupPipeline_ended s hs
  generalize run.2 = t, run.1 = ok at hended ⊢
  obtain ⟨hperformed, hnoted⟩ := hended.followed
  obtain ⟨table, htable, hlive⟩ := table_of_prefix hperformed
  refine ⟨hperformed, hended.whole_of_clean, hended.ready_iff, ⟨table, htable, fun hok => ?_,
    fun op hop => ?_⟩, fun calls hcalls => ?_⟩
  · have hcomplete := hended.complete hok
    refine ⟨congrArg Prod.snd hcomplete.flags, hcomplete.fields, fun object hobject => ?_⟩
    rw [hcomplete.fields] at hobject
    obtain ⟨calls, hcalls, call, hcall, hcreates⟩ := objectPlan_creates target _ object hobject
    exact hlive calls (hcomplete.performed.subset hcalls) call hcall object hcreates
  · obtain ⟨hhandle, row, hrow, hmem⟩ := hnoted op hop
    obtain ⟨p, hp, hread⟩ := operator_of_row hrow
    refine ⟨hlive _ hmem _ (List.mem_singleton_self _) _ rfl, p, hp, row.rt, hread, ?_⟩
    exact List.mem_flatten_of_mem hmem (List.mem_singleton_self _)
  · rcases List.mem_append.mp (hperformed.subset hcalls) with hobjects | hblends
    · exact Or.inl ⟨hobjects, objectPlan_sendable calls hobjects⟩
    · exact Or.inr ⟨hblends, blendPlan_sendable _ _ calls hblends⟩

end Whole

/-- Nothing has been made yet. -/
def exampleSetup : Setup where
  comp := { exampleCompositor with
    gs := exampleCompositor.gs.withVirglReady false
    compNextHandle := 0 }
  fields := ⟨0, 0, 0, 0, 0, 0, 0, 0, 0, 0, 0, false, fun _ => 0⟩
  performed := []

def exampleTarget : Target := ⟨7, 640, 480, 0x3F000000, 0x43A00000, 0x43700000⟩

/-- The answer for the first fragment shader does not come. -/
def lostShader : SetupReplies :=
  ⟨.done, .done, .lost, .done, .done, .done, .done, .done, fun _ => .done⟩

theorem setup_follows_plan_lost :
    (setupPipeline lostShader exampleTarget exampleSetup).2.performed =
      (setupPlan exampleTarget).take 3 := by
  have hbegin := (setup_follows_plan lostShader exampleTarget
    (s := exampleSetup) ⟨by decide +kernel, rfl, rfl, rfl, rfl⟩).1
  have hlength : (setupPipeline lostShader exampleTarget exampleSetup).2.performed.length = 3 := by
    decide +kernel
  rw [← hlength]
  exact List.prefix_iff_eq_take.mp hbegin

end VirtIOGPU.Compositing
