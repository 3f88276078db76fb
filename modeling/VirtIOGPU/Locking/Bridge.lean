import VirtIOGPU.Compositing.Bridge
import VirtIOGPU.Locking.Frames

/-!
# The hook as a task, and as a function

As a task the hook for `CompositeTagList` consists of events, and other tasks run in between; that
is what its locks are judged by.  The models of `Card` and `Compositing` are functions.  Here they
are shown to be one program: what a task leaves that calls the hook and is not disturbed, the hook
of the compositor leaves, for some answers of the device (`hookCompositeTagList_ends`), and so does
that of the card (`hook_alone`).

## Strategy

`React` says what the loads of the task find while it runs alone: the fields of the compositor,
without its host.  The commands leave these fields as they are (`Calm`), and what a task does with
`ChipGPUState` are loads and stores, which `after_look` and `after_put` take off its front one by
one.  `Does` is the other side: what a function of the compositor returns and leaves, whatever its
host.

```text
as a task                      as a function                the answers it is given
virgl_submit                   virglSubmit                  done, or refused: no stream arrived
an upload                      uploadStrips                 one for each first row
a texture                      makeTexture                  TextureReplies
a quad                         chipVirglDrawColoredQuad     for the stream and for its end
chip_virgl_composite           chipVirglComposite           those of its parts, put together
hook_CompositeTagList          hookCompositeTagList         the same
```

Each row is a lemma of one form: for an ending of the task there are answers with which the function
ends like it.  A strip begins where the one before has ended, so no two of them share an answer
(`uploadStrips_ends`).  Answers are not needed where the result of a command is ignored and its
effect is on the host alone.
-/

namespace VirtIOGPU.Locking

open Card Drawing Lib.Mutex Lib.Hoare Lib.Layout
open Virgl (VirglCall UploadRequest emitted)
open Compositing (Compositor Composer CompositeReplies CompositeRequest HookEnv HookCall ParsedTags
  StreamData objectBlend objectSamplerView shaderFragment drawCalls stripCall Uploadable pipeFmt
  request)

/-! ## The answers to a task -/

/-- What `Compositor` has beside the host. -/
structure Fields where
  gs : GpuState
  compNextHandle : UInt32
  compTexView : UInt32

def fields (c : Compositor) : Fields := ⟨c.gs, c.compNextHandle, c.compTexView⟩

/-- A field that is loaded has this value; those that are not named here are not modelled. -/
def Shown (env : HookEnv) (d : Fields) (v : UInt32) : GsField → Prop
  | .chipState => v ≠ 0
  | .virgl2dReady => v ≠ 0 ↔ d.gs.virgl2dReady = true
  | .virglCtxError => v ≠ 0 ↔ d.gs.virglCtxError = true
  | .virglShadersOk => v ≠ 0 ↔ d.gs.virglShadersOk = true
  | .doubleBuffer => v ≠ 0 ↔ d.gs.doubleBuffer = true
  | .iGraphics => v ≠ 0 ↔ env.iGraphics = true
  | .cmd3dBuf => v ≠ 0 ↔ d.gs.cmd3dBuf ≠ 0
  | .boardMem => v = env.address d.gs.boardMem
  | .boardMemSize => v = d.gs.boardMemSize
  | .virgl2dVbufRes => v = d.gs.virgl2dVbufRes
  | .virgl2dVe => v = env.objects.ve
  | .virgl2dFs => v = env.objects.fs
  | .virgl2dFsTex => v = env.objects.fsTex
  | .virgl2dSampler => v = env.objects.sampler
  | .virgl2dSamplerLinear => v = env.objects.samplerLinear
  | .virgl2dBlend => v = env.objects.blend
  | .compBlends op => v = env.objects.compBlends op
  | .compNextHandle => v = d.compNextHandle
  | .compTexRes => v = d.gs.compTexRes
  | .compTexView => v = d.compTexView
  | _ => True

/-- What a store leaves; about the fields that no composition writes nothing is said. -/
def Stored (d : Fields) (v : UInt32) (d' : Fields) : GsField → Prop
  | .virglCtxError => d' = { d with gs := { d.gs with virglCtxError := v != 0 } }
  | .compNextHandle => d' = { d with compNextHandle := v }
  | .compTexRes => d' = { d with gs := d.gs.withCompTex v }
  | .compTexView => d' = { d with compTexView := v }
  | .compTexW => d' = d
  | .compTexH => d' = d
  | _ => True

/-- How the events of a task are answered while no other task runs. -/
def React (env : HookEnv) (d : Fields) : Event → ℕ → Fields → Prop
  | .look field, answer, d' => Shown env d (UInt32.ofNat answer) field ∧ d' = d
  | .put field v, _, d' => Stored d v d' field
  | .allocResourceId, answer, d' =>
      UInt32.ofNat answer = d.gs.allocId ∧
        d' = { d with gs := d.gs.withNextId (d.gs.allocId + 1) }
  | _, _, d' => d' = d

/-- The task ends so. -/
abbrev TaskEnds {α : Type} (env : HookEnv) (m : Task α) (d : Fields) (a : α) (d' : Fields) : Prop :=
  Ends (React env) m d a d'

/-- From these fields, whatever the host, the function returns `a` and leaves these. -/
def Does {α : Type} (m : Composer α) (d : Fields) (a : α) (d' : Fields) : Prop :=
  ∀ c, fields c = d → (m c).1 = a ∧ fields (m c).2 = d'

namespace Does

variable {α β : Type} {m m' : Composer α} {d d' u : Fields} {a : α} {b : β}

theorem ret (a : α) (d : Fields) : Does (pure a) d a d := fun _ hc => ⟨rfl, hc⟩

theorem bind {k : α → Composer β} (hm : Does m d a u) (hk : Does (k a) u b d') :
    Does (m >>= k) d b d' := by
  intro c hc
  obtain ⟨hresult, hfields⟩ := hm c hc
  change (k (m c).1 (m c).2).1 = b ∧ fields (k (m c).1 (m c).2).2 = d'
  rw [hresult]
  exact hk _ hfields

theorem read {k : Compositor → Composer β} (hk : ∀ c, fields c = d → Does (k c) d b d') :
    Does (get >>= k) d b d' :=
  fun c hc => hk c hc c hc

theorem ite_pos {c : Prop} [Decidable c] (hc : c) (hm : Does m d a d') :
    Does (if c then m else m') d a d' := by
  rw [if_pos hc]
  exact hm

theorem ite_neg {c : Prop} [Decidable c] (hc : ¬ c) (hm : Does m' d a d') :
    Does (if c then m else m') d a d' := by
  rw [if_neg hc]
  exact hm

end Does

section Tasks

variable {env : HookEnv} {d d' : Fields}

/-! ## Loads -/

theorem look_ends {field : GsField} {v : UInt32} (h : TaskEnds env (look field) d v d') :
    Shown env d v field ∧ d' = d := by
  obtain ⟨n, u, hevent, rfl, rfl⟩ := ends_bind.mp h
  exact ends_event.mp hevent

theorem isSet_ends {field : GsField} {b : Bool} (h : TaskEnds env (isSet field) d b d') :
    ∃ v, Shown env d v field ∧ (b = true ↔ v ≠ 0) ∧ d' = d := by
  obtain ⟨v, u, hlook, rfl, rfl⟩ := ends_bind.mp h
  obtain ⟨hshown, rfl⟩ := look_ends hlook
  exact ⟨v, hshown, bne_iff_ne, rfl⟩

/-- A load of a flag. -/
theorem flag_ends {field : GsField} {φ : Prop} {b : Bool} (h : TaskEnds env (isSet field) d b d')
    (hflag : ∀ v, Shown env d v field → (v ≠ 0 ↔ φ)) : (b = true ↔ φ) ∧ d' = d := by
  obtain ⟨v, hshown, hb, rfl⟩ := isSet_ends h
  exact ⟨hb.trans (hflag v hshown), rfl⟩

theorem both_ends {first second : Task Bool} {φ ψ : Prop} {b : Bool}
    (h : TaskEnds env (both first second) d b d')
    (hfirst : ∀ b u, TaskEnds env first d b u → (b = true ↔ φ) ∧ u = d)
    (hsecond : ∀ b u, TaskEnds env second d b u → (b = true ↔ ψ) ∧ u = d) :
    (b = true ↔ φ ∧ ψ) ∧ d' = d := by
  obtain ⟨holds, u, hone, hrest⟩ := ends_bind.mp h
  obtain ⟨hφ, rfl⟩ := hfirst holds u hone
  rcases ends_ite.mp hrest with ⟨htrue, hrest⟩ | ⟨hfalse, rfl, rfl⟩
  · obtain ⟨hψ, rfl⟩ := hsecond b d' hrest
    rw [hψ, and_iff_right (hφ.mp htrue)]
    exact ⟨Iff.rfl, rfl⟩
  · have hnot : ¬ φ := fun h => hfalse (hφ.mpr h)
    simp [hnot]

theorem pipelineReady_ends {b : Bool} (h : TaskEnds env pipelineReady d b d') :
    (b = true ↔ d.gs.virgl2dReady = true ∧ d.gs.virglShadersOk = true) ∧ d' = d :=
  both_ends h (fun _ _ h => flag_ends h fun _ hv => hv) fun _ _ h => flag_ends h fun _ hv => hv

theorem put_ends {field : GsField} {v : UInt32} (h : TaskEnds env (put field v) d ⟨⟩ d') :
    Stored d v d' field := by
  obtain ⟨n, hstored⟩ := ends_act.mp h
  exact hstored

/-! What is left of a task after its first step. -/

section After

variable {α β : Type} {b : β}

theorem after_look {field : GsField} {k : UInt32 → Task β}
    (h : TaskEnds env (look field >>= k) d b d') :
    ∃ v, Shown env d v field ∧ TaskEnds env (k v) d b d' := by
  obtain ⟨v, u, hlook, hrest⟩ := ends_bind.mp h
  obtain ⟨hshown, rfl⟩ := look_ends hlook
  exact ⟨v, hshown, hrest⟩

theorem after_flag {field : GsField} {φ : Prop} {k : Bool → Task β}
    (h : TaskEnds env (isSet field >>= k) d b d')
    (hflag : ∀ v, Shown env d v field → (v ≠ 0 ↔ φ)) :
    ∃ flag : Bool, (flag = true ↔ φ) ∧ TaskEnds env (k flag) d b d' := by
  obtain ⟨flag, u, hset, hrest⟩ := ends_bind.mp h
  obtain ⟨hφ, rfl⟩ := flag_ends hset hflag
  exact ⟨flag, hφ, hrest⟩

/-- An early exit. -/
theorem after_guard {flag : Task Bool} {φ : Prop} {a : β} {rest : Task β}
    (h : TaskEnds env (flag >>= fun holds => if !holds then pure a else rest) d b d')
    (hflag : ∀ holds u, TaskEnds env flag d holds u → (holds = true ↔ φ) ∧ u = d) :
    (¬ φ ∧ b = a ∧ d' = d) ∨ (φ ∧ TaskEnds env rest d b d') := by
  obtain ⟨holds, u, hfirst, hrest⟩ := ends_bind.mp h
  obtain ⟨hφ, rfl⟩ := hflag holds u hfirst
  rcases ends_ite.mp hrest with ⟨hno, rfl, rfl⟩ | ⟨hyes, hrest⟩
  · have hfalse : holds = false := by simpa using hno
    exact Or.inl ⟨fun htrue => by simp [hφ.mpr htrue] at hfalse, rfl, rfl⟩
  · exact Or.inr ⟨hφ.mp (by simpa using hyes), hrest⟩

theorem after_put {field : GsField} {v : UInt32} {k : Unit → Task β}
    (h : TaskEnds env (put field v >>= k) d b d') :
    ∃ u, Stored d v u field ∧ TaskEnds env (k ⟨⟩) u b d' := by
  obtain ⟨_, u, hput, hrest⟩ := ends_bind.mp h
  exact ⟨u, put_ends hput, hrest⟩

theorem after_calm {m : Task α} {k : α → Task β} (h : TaskEnds env (m >>= k) d b d')
    (hm : Leaves (React env) m) : ∃ a, TaskEnds env (k a) d b d' := by
  obtain ⟨a, u, hfirst, hrest⟩ := ends_bind.mp h
  obtain rfl := hm _ _ _ hfirst
  exact ⟨a, hrest⟩

end After

/-! ## The wrappers -/

/-- The task leaves the fields as they are. -/
abbrev Calm {α : Type} (m : Task α) : Prop := ∀ env, Leaves (React env) m

theorem Calm.word (e : Event) (h : ∀ env d n d', React env d e n d' → d' = d) : Calm (word e) :=
  fun env => Leaves.bind (Leaves.event (h env)) fun _ => Leaves.ret _

theorem look_calm (field : GsField) : Calm (look field) := Calm.word _ fun _ _ _ _ h => h.2

theorem isSet_calm (field : GsField) : Calm (isSet field) :=
  fun env => Leaves.bind (look_calm field env) fun _ => Leaves.ret _

theorem prepare_calm (l : Struct Wrappers.Field) (stores : List Wrappers.Store)
    (cmdSize respSize : ℕ) : Calm (prepare l stores cmdSize respSize) := by
  intro env
  have hzero (buffer : SharedBuffer) (n : ℕ) : Leaves (React env) (chipZero buffer n) :=
    Leaves.forEach fun i => Leaves.act fun _ _ _ h => h
  refine Leaves.bind (hzero _ _) fun _ => Leaves.bind (hzero _ _) fun _ => ?_
  exact Leaves.forEach fun store => Leaves.act fun _ _ _ h => h

theorem chipDoIo_calm (readable : List ℕ) (respSize : ℕ) : Calm (chipDoIo readable respSize) := by
  intro env
  refine Leaves.bind (isSet_calm _ env) fun vq => Leaves.ite (Leaves.ret _) ?_
  refine Leaves.bind (Leaves.event fun _ _ _ h => h) fun rc => Leaves.ite (Leaves.ret _) ?_
  refine Leaves.bind (Leaves.act fun _ _ _ h => h) fun _ => ?_
  exact Calm.word .await (fun _ _ _ _ h => h) env

theorem responseType_calm (written : UInt32) : Calm (responseType written) :=
  fun env => Leaves.ite (Leaves.ret _) (Calm.word (.load _ _) (fun _ _ _ _ h => h) env)

theorem requestNodata_calm (l : Struct Wrappers.Field) (stores : List Wrappers.Store)
    (cmdSize : ℕ) : Calm (requestNodata l stores cmdSize) := by
  intro env
  refine Leaves.bind Leaves.obtain fun _ => Leaves.bind (prepare_calm _ _ _ _ env) fun _ => ?_
  refine Leaves.bind (Leaves.bind (chipDoIo_calm _ _ env) fun _ => responseType_calm _ env)
    fun rt => ?_
  exact Leaves.bind Leaves.release fun _ => Leaves.ret _

theorem function_calm {α : Type} (f : LockUser) {body : Task α} (h : Calm body) :
    Calm (function f body) := by
  intro env
  refine Leaves.bind (Leaves.act fun _ _ _ h => h) fun _ => Leaves.bind (h env) fun _ => ?_
  exact Leaves.bind (Leaves.act fun _ _ _ h => h) fun _ => Leaves.ret _

theorem chipResourceUnref_calm (id : UInt32) : Calm (chipResourceUnref id) :=
  function_calm _ (requestNodata_calm _ _ _)

theorem chipResourceFlush_calm (id x y width height : UInt32) :
    Calm (chipResourceFlush id x y width height) :=
  function_calm _ (requestNodata_calm _ _ _)

theorem chipCtxAttachResource_calm (ctxId id : UInt32) : Calm (chipCtxAttachResource ctxId id) :=
  function_calm _ (requestNodata_calm _ _ _)

theorem chipCtxDetachResource_calm (ctxId id : UInt32) : Calm (chipCtxDetachResource ctxId id) :=
  function_calm _ (requestNodata_calm _ _ _)

theorem chipResourceCreate3D_calm (args : Wrappers.Resource3D) :
    Calm (chipResourceCreate3D args) :=
  function_calm _ (requestNodata_calm _ _ _)

/-- The marks do nothing. -/
theorem function_ends {α : Type} {f : LockUser} {body : Task α} {a : α}
    (h : TaskEnds env (function f body) d a d') : TaskEnds env body d a d' := by
  obtain ⟨_, u, henter, h⟩ := ends_bind.mp h
  obtain ⟨result, v, hbody, h⟩ := ends_bind.mp h
  obtain ⟨_, w, hleave, rfl, rfl⟩ := ends_bind.mp h
  obtain ⟨_, henter⟩ := ends_act.mp henter
  obtain ⟨_, hleave⟩ := ends_act.mp hleave
  obtain rfl : u = d := henter
  obtain rfl : d' = v := hleave
  exact hbody

theorem chipSubmit3D_calm (ctxId cmdSize : UInt32) : Calm (chipSubmit3D ctxId cmdSize) := by
  refine function_calm _ fun env => Leaves.bind (isSet_calm _ env) fun cmd3d => ?_
  refine Leaves.ite (Leaves.ret _) (Leaves.ite (Leaves.ret _) (Leaves.ite (Leaves.ret _) ?_))
  refine Leaves.bind Leaves.obtain fun _ => Leaves.bind (prepare_calm _ _ _ _ env) fun _ => ?_
  refine Leaves.bind (Leaves.forEach fun i => Leaves.act fun _ _ _ h => h) fun _ => ?_
  refine Leaves.bind (chipDoIo_calm _ _ env) fun _ => ?_
  refine Leaves.bind (responseType_calm _ env) fun rt => ?_
  exact Leaves.bind Leaves.release fun _ => Leaves.ret _

/-- Nothing succeeds without the buffer. -/
theorem chipSubmit3D_buffer {ctxId cmdSize : UInt32}
    (h : TaskEnds env (chipSubmit3D ctxId cmdSize) d true d') : d.gs.cmd3dBuf ≠ 0 := by
  obtain ⟨cmd3d, hbuf, hrest⟩ := after_flag (function_ends h) fun _ hv => hv
  rcases ends_ite.mp hrest with ⟨-, hfailed, -⟩ | ⟨hyes, -⟩
  · exact absurd hfailed.symm Bool.false_ne_true
  · exact hbuf.mp (by simpa using hyes)

/-! ## `virgl_submit` -/

/-- The words of these calls can be counted in 32 bits. -/
def Short (calls : List VirglCall) : Prop := (emitted calls).length < 2 ^ 32

theorem gs_of_fields {c : Compositor} (hc : fields c = d) : c.gs = d.gs := congrArg Fields.gs hc

section Submit

variable {calls : List VirglCall}

theorem submit_poisoned (hcalls : calls ≠ []) (answer : GpuAnswer)
    (herror : d.gs.virglCtxError = true) :
    Does (Compositing.virglSubmit calls answer) d false d := by
  intro c hc
  rw [← gs_of_fields hc] at herror
  rw [Compositing.virglSubmit_run hcalls, if_pos herror]
  exact ⟨rfl, hc⟩

theorem submit_done (hcalls : calls ≠ []) (hclean : ¬ d.gs.virglCtxError = true)
    (hbuf : d.gs.cmd3dBuf ≠ 0) : Does (Compositing.virglSubmit calls .done) d true d := by
  intro c hc
  rw [← gs_of_fields hc] at hclean hbuf
  rw [Compositing.virglSubmit_run hcalls, if_neg hclean, if_neg hbuf]
  exact ⟨rfl, hc⟩

theorem submit_refused (hcalls : calls ≠ []) (hclean : ¬ d.gs.virglCtxError = true) :
    Does (Compositing.virglSubmit calls .refused) d false { d with gs := d.gs.withCtxError } := by
  intro c hc
  subst hc
  have hclean' : ¬ c.gs.virglCtxError = true := hclean
  rw [Compositing.virglSubmit_run hcalls, if_neg hclean']
  by_cases hnone : c.gs.cmd3dBuf = 0
  · rw [if_pos hnone]
    exact ⟨rfl, rfl⟩
  · rw [if_neg hnone]
    exact ⟨rfl, rfl⟩

end Submit

theorem virglSubmit_ends {ctxId : UInt32} {calls : List VirglCall} {ok : Bool}
    (hshort : Short calls) (h : TaskEnds env (virglSubmit ctxId calls) d ok d') :
    ∃ answer, Does (Compositing.virglSubmit calls answer) d ok d' := by
  rcases ends_ite.mp h with ⟨hzero, rfl, rfl⟩ | ⟨hsome, hsubmitted⟩
  · have hnone : calls = [] := by
      by_contra hcalls
      have hlength : (emitted calls).length = 0 := by
        rw [← UInt32.toNat_ofNat_of_lt' hshort, hzero]
        rfl
      exact Compositing.emitted_ne_nil hcalls (List.eq_nil_of_length_eq_zero hlength)
    subst hnone
    exact ⟨.done, fun c hc => ⟨rfl, hc⟩⟩
  have hcalls : calls ≠ [] := by
    rintro rfl
    exact hsome rfl
  obtain ⟨poisoned, herror, hchecked⟩ := after_flag hsubmitted fun _ hv => hv
  rcases ends_ite.mp hchecked with ⟨hyes, rfl, rfl⟩ | ⟨hno, hsent⟩
  · exact ⟨.done, submit_poisoned hcalls _ (herror.mp hyes)⟩
  have hclean : ¬ d.gs.virglCtxError = true := fun htrue => hno (herror.mpr htrue)
  obtain ⟨result, u, hsubmit, hended⟩ := ends_bind.mp hsent
  obtain rfl := chipSubmit3D_calm _ _ env _ _ _ hsubmit
  rcases ends_ite.mp hended with ⟨rfl, rfl, rfl⟩ | ⟨-, hfailed⟩
  · exact ⟨.done, submit_done hcalls hclean (chipSubmit3D_buffer hsubmit)⟩
  · -- whatever went wrong, the fields are the same as if nothing had been sent
    obtain ⟨w, rfl, rfl, rfl⟩ := after_put hfailed
    exact ⟨.refused, submit_refused hcalls hclean⟩

/-! ## The lengths of the streams -/

theorem length_emitted (calls : List VirglCall) :
    (emitted calls).length = (calls.map fun call => call.payload.length + 1).sum := by
  unfold emitted
  induction calls with
  | nil => rfl
  | cons call rest ih => simp [Lib.Packets.stream_cons, ih, VirglCall.packet]; omega

theorem short_one {call : VirglCall} (h : call.payload.length < 2 ^ 32 - 1) : Short [call] := by
  unfold Short
  rw [length_emitted]
  simp
  omega

theorem short_strip (data : StreamData) (r : UploadRequest) (rowsDone rowsThis : UInt32) :
    Short [stripCall data r rowsDone rowsThis] := by
  have hblock := (data.pixels rowsDone rowsThis).inMemory
  refine short_one ?_
  simp [stripCall, VirglCall.payload, Virgl.InlineBox.words, Virgl.Block.words]
  omega

theorem length_drawCalls (data : StreamData) (vbuf : UInt32) :
    (emitted (drawCalls data vbuf)).length = data.vertices.bits.length + 29 := by
  rw [length_emitted]
  simp [drawCalls, VirglCall.payload, Virgl.vertexBox, Virgl.InlineBox.words,
    Virgl.VertexBuffer.words, Virgl.DrawVbo.words]

theorem short_draw (data : StreamData) (vbuf : UInt32) : Short (drawCalls data vbuf) := by
  have hfloats := data.vertices.inMemory
  unfold Short
  rw [length_drawCalls]
  omega

theorem short_quad (data : StreamData) (vbuf fsTex sampler view : UInt32) :
    Short ([.bindShader shaderFragment fsTex, .bindSamplerStates shaderFragment 0 [sampler],
      .setSamplerViews shaderFragment 0 [view]] ++ drawCalls data vbuf) := by
  have hfloats := data.vertices.inMemory
  unfold Short
  rw [length_emitted, List.map_append, List.sum_append, ← length_emitted (drawCalls data vbuf),
    length_drawCalls]
  simp [VirglCall.payload]
  omega

/-! ## Textures -/

variable {data : StreamData} {r : UploadRequest} {ok : Bool}

theorem uploadStrips_ends (hr : r.Valid) {ctxId rowsDone : UInt32} {fuel : ℕ}
    (h : TaskEnds env (uploadStrips data ctxId r fuel rowsDone) d ok d') :
    ∃ strip : UInt32 → GpuAnswer, ∀ replies : CompositeReplies,
      (∀ row, rowsDone ≤ row → replies.strip row = strip row) →
        Does (Compositing.uploadStrips data replies r fuel rowsDone) d ok d' := by
  induction fuel generalizing rowsDone d with
  | zero =>
      obtain ⟨rfl, rfl⟩ := h
      exact ⟨fun _ => .done, fun replies _ => Does.ret _ _⟩
  | succ fuel ih =>
      rcases ends_ite.mp h with ⟨hmore, hstrip⟩ | ⟨hlast, rfl, rfl⟩
      · obtain ⟨sent, u, hsubmit, hrest⟩ := ends_bind.mp hstrip
        obtain ⟨answer, hanswer⟩ := virglSubmit_ends (short_strip _ _ _ _) hsubmit
        rcases ends_ite.mp hrest with ⟨hsent, hlater⟩ | ⟨hfailed, rfl, rfl⟩
        · obtain ⟨later, hdoes⟩ := ih hlater
          obtain ⟨hsome, -, -, hsum⟩ := hr.next_rows hmore
          -- the rest of the loop begins with a later row, and does not ask for this answer
          refine ⟨Function.update later rowsDone answer, fun replies hreplies => ?_⟩
          have hfirst : replies.strip rowsDone = answer :=
            (hreplies rowsDone (UInt32.le_refl _)).trans (Function.update_self ..)
          refine Does.ite_pos hmore (Does.bind (hfirst ▸ hanswer) (Does.ite_pos hsent ?_))
          refine hdoes replies fun row hrow => ?_
          have hlt : rowsDone < row := by
            rw [UInt32.lt_iff_toNat_lt]
            rw [UInt32.le_iff_toNat_le, hsum] at hrow
            omega
          rw [hreplies row (UInt32.le_of_lt hlt), Function.update_of_ne (UInt32.ne_of_lt hlt).symm]
        · refine ⟨fun _ => answer, fun replies hreplies => ?_⟩
          have hfirst : replies.strip rowsDone = answer := hreplies rowsDone (UInt32.le_refl _)
          exact Does.ite_pos hmore (Does.bind (hfirst ▸ hanswer) (Does.ite_neg hfailed
            (Does.ret _ _)))
      · exact ⟨fun _ => .done, fun replies _ => Does.ite_neg hlast (Does.ret _ _)⟩

theorem chipCompUploadPixels32bpp_ends (hr : r.Valid)
    (h : TaskEnds env (chipCompUploadPixels32bpp data r) d ok d') :
    ∃ alloc strip, ∀ replies : CompositeReplies, replies.alloc = alloc → replies.strip = strip →
      Does (Compositing.chipCompUploadPixels32bpp data replies r) d ok d' := by
  obtain ⟨ctxId, -, hbody⟩ := after_look h
  obtain ⟨words, hbuffer⟩ := after_calm hbody (Leaves.event fun _ _ _ h => h)
  rcases ends_ite.mp hbuffer with ⟨-, rfl, rfl⟩ | ⟨-, hstrips⟩
  · refine ⟨false, fun _ => .done, fun replies hnone _ => ?_⟩
    exact Does.ite_neg (by simp [hnone]) (Does.ret _ _)
  · obtain ⟨sent, u, hloop, hend⟩ := ends_bind.mp hstrips
    obtain ⟨_, rfl, rfl⟩ := after_calm hend (Leaves.act fun _ _ _ h => h)
    obtain ⟨strip, hdoes⟩ := uploadStrips_ends hr hloop
    refine ⟨true, strip, fun replies hsome hstrip => Does.ite_pos hsome (hdoes replies ?_)⟩
    exact fun row _ => congrFun hstrip row

/-- A command without a stream. -/
theorem command_does {effect : Compositor → Compositor}
    (heffect : ∀ c, fields (effect c) = fields c) (answer : GpuAnswer) (d : Fields) :
    Does (Compositing.gpuCommand effect answer) d (answer == .done) d := by
  rintro c rfl
  cases answer with
  | done => exact ⟨rfl, heffect c⟩
  | refused => exact ⟨rfl, rfl⟩
  | lost => exact ⟨rfl, heffect c⟩

theorem unref_does (id : UInt32) (answer : GpuAnswer) (d : Fields) :
    Does (Compositing.chipResourceUnref id answer) d (answer == .done) d := by
  have heffect : ∀ c : Compositor, fields (c.dropTexture id) = fields c := fun _ => rfl
  exact command_does heffect answer d

theorem create_does (id : UInt32) (texture : Compositing.Texture) (answer : GpuAnswer)
    (d : Fields) :
    Does (Compositing.chipResourceCreate3D id texture answer) d (answer == .done) d := by
  have heffect : ∀ c : Compositor, fields (c.createTexture id texture) = fields c := fun _ => rfl
  exact command_does heffect answer d

theorem withTexture_does (id view : UInt32) (d : Fields) :
    Does (modify fun s => s.withTexture id view) d ⟨⟩
      { d with gs := d.gs.withCompTex id, compTexView := view } := by
  rintro c rfl
  exact ⟨rfl, rfl⟩

theorem chipCompFreeTexture_ends (h : TaskEnds env chipCompFreeTexture d ⟨⟩ d') :
    ∃ destroyView, ∀ unref, Does (Compositing.chipCompFreeTexture destroyView unref) d ⟨⟩ d' := by
  obtain ⟨present, u, hlook, hbody⟩ := ends_bind.mp h
  obtain ⟨res, hres, hpresent, rfl⟩ := isSet_ends hlook
  obtain rfl : res = u.gs.compTexRes := hres
  rcases ends_ite.mp hbody with ⟨hyes, hfreed⟩ | ⟨hno, -, rfl⟩
  · obtain ⟨ctxId, -, hrest⟩ := after_look hfreed
    obtain ⟨view, hview, hdestroyed⟩ := after_look hrest
    obtain rfl : view = u.compTexView := hview
    have hshort : Short (if u.compTexView ≠ 0 then
        [.destroyObject objectSamplerView u.compTexView] else []) := by
      by_cases hview : u.compTexView ≠ 0
      · rw [if_pos hview]
        exact short_one (by simp [VirglCall.payload])
      · rw [if_neg hview]
        exact Nat.two_pow_pos 32
    obtain ⟨sent, v, hsubmit, hlooked⟩ := ends_bind.mp hdestroyed
    obtain ⟨answer, hdoes⟩ := virglSubmit_ends hshort hsubmit
    obtain ⟨id, -, hdetached⟩ := after_look hlooked
    obtain ⟨_, hunref⟩ := after_calm hdetached (chipCtxDetachResource_calm _ _ env)
    obtain ⟨_, hputs⟩ := after_calm hunref (chipResourceUnref_calm _ env)
    obtain ⟨_, rfl, hputs⟩ := after_put hputs
    obtain ⟨_, rfl, hputs⟩ := after_put hputs
    obtain ⟨_, rfl, hputs⟩ := after_put hputs
    obtain rfl := put_ends hputs
    refine ⟨answer, fun unref => Does.read fun c hc => ?_⟩
    subst hc
    refine Does.ite_neg (hpresent.mp hyes) (Does.bind hdoes ?_)
    exact Does.bind (unref_does _ _ _) (withTexture_does _ _ _)
  · refine ⟨.done, fun unref => Does.read fun c hc => ?_⟩
    subst hc
    exact Does.ite_pos (not_not.mp fun hne => hno (hpresent.mpr hne)) (Does.ret _ _)

/-- The answers on which a texture depends. -/
structure TextureReplies where
  create : GpuAnswer
  alloc : Bool
  strip : UInt32 → GpuAnswer
  samplerView : GpuAnswer

def textureReplies (replies : CompositeReplies) : TextureReplies :=
  ⟨replies.create, replies.alloc, replies.strip, replies.samplerView⟩

theorem discard_ends {ctxId id : UInt32} (h : TaskEnds env (discard ctxId id) d ok d')
    (replies : CompositeReplies) : Does (Compositing.discard replies id) d ok d' := by
  obtain ⟨_, hunref⟩ := after_calm h (chipCtxDetachResource_calm _ _ env)
  obtain ⟨_, rfl, rfl⟩ := after_calm hunref (chipResourceUnref_calm _ env)
  exact Does.bind (unref_does _ _ _) (Does.ret _ _)

theorem compAllocHandle_ends {handle : UInt32} (h : TaskEnds env compAllocHandle d handle d') :
    Does Compositing.compAllocHandle d handle d' := by
  obtain ⟨next, hnext, hrest⟩ := after_look h
  obtain ⟨u, rfl, rfl, rfl⟩ := after_put hrest
  obtain rfl : next = d.compNextHandle := hnext
  rintro c rfl
  exact ⟨rfl, rfl⟩

theorem viewTexture_ends {ctxId id format w h' : UInt32}
    (h : TaskEnds env (viewTexture ctxId id format w h') d ok d') :
    ∃ samplerView, ∀ replies : CompositeReplies, replies.samplerView = samplerView →
      Does (Compositing.viewTexture replies id format) d ok d' := by
  obtain ⟨view, u, halloc, hrest⟩ := ends_bind.mp h
  have hhandle := compAllocHandle_ends halloc
  obtain ⟨submitted, v, hsubmit, hrest'⟩ := ends_bind.mp hrest
  obtain ⟨answer, hdoes⟩ := virglSubmit_ends
    (short_one (by simp [VirglCall.payload, Virgl.SamplerView.words])) hsubmit
  refine ⟨answer, fun replies hanswer => Does.bind hhandle (Does.bind (hanswer ▸ hdoes) ?_)⟩
  rcases ends_ite.mp hrest' with ⟨hyes, hputs⟩ | ⟨hno, hfailed⟩
  · obtain ⟨_, rfl, hputs⟩ := after_put hputs
    obtain ⟨_, rfl, hputs⟩ := after_put hputs
    obtain ⟨_, rfl, hputs⟩ := after_put hputs
    obtain ⟨_, rfl, rfl, rfl⟩ := after_put hputs
    refine Does.ite_neg (by simp [hyes]) ?_
    exact Does.bind (withTexture_does _ _ _) (Does.ret _ _)
  · exact Does.ite_pos (by simpa using hno) (discard_ends hfailed replies)

/-- A region that can be a texture has strips that end. -/
theorem valid_of_uploadable {srcData w h : UInt32} (hregion : Uploadable srcData w h)
    (id srcBpr : UInt32) : UploadRequest.Valid ⟨id, srcData, srcBpr, 0, 0, w, h⟩ := by
  obtain ⟨⟨hw, hh, -⟩, hsmall⟩ := hregion
  obtain ⟨hwide, hhigh⟩ := not_or.mp hsmall
  rw [gt_iff_lt, UInt32.lt_iff_toNat_lt, Nat.not_lt] at hwide hhigh
  refine ⟨Nat.pos_of_ne_zero fun hzero => hw ?_, hwide, Nat.pos_of_ne_zero fun hzero => hh ?_,
    hhigh⟩
  · exact UInt32.toNat_inj.mp hzero
  · exact UInt32.toNat_inj.mp hzero

theorem fillTexture_ends {ctxId format : UInt32} (hr : r.Valid)
    (h : TaskEnds env (do
      let uploaded ← chipCompUploadPixels32bpp data r
      if uploaded then viewTexture ctxId r.res format r.w r.h else discard ctxId r.res) d ok d') :
    ∃ alloc strip samplerView, ∀ replies : CompositeReplies, replies.alloc = alloc →
      replies.strip = strip → replies.samplerView = samplerView →
        Does (Compositing.fillTexture data replies r format) d ok d' := by
  obtain ⟨uploaded, u, hpixels, hrest⟩ := ends_bind.mp h
  obtain ⟨alloc, strip, hdoes⟩ := chipCompUploadPixels32bpp_ends hr hpixels
  rcases ends_ite.mp hrest with ⟨hyes, hview⟩ | ⟨hno, hfailed⟩
  · obtain ⟨samplerView, hviewed⟩ := viewTexture_ends hview
    refine ⟨alloc, strip, samplerView, fun replies ha hs hv => ?_⟩
    exact Does.bind (hdoes replies ha hs) (Does.ite_neg (by simp [hyes]) (hviewed replies hv))
  · refine ⟨alloc, strip, .done, fun replies ha hs _ => ?_⟩
    exact Does.bind (hdoes replies ha hs)
      (Does.ite_pos (by simpa using hno) (discard_ends hfailed replies))

theorem makeTexture_ends {srcData srcBpr w h' : UInt32} {hasAlpha : Bool}
    (hregion : Uploadable srcData w h')
    (h : TaskEnds env (makeTexture data srcData srcBpr w h' hasAlpha) d ok d') :
    ∃ answers, ∀ replies, textureReplies replies = answers →
      Does (Compositing.makeTexture data replies srcData srcBpr w h' hasAlpha) d ok d' := by
  obtain ⟨ctxId, -, hbody⟩ := after_look h
  obtain ⟨id, u, halloc, hmade⟩ := ends_bind.mp hbody
  obtain ⟨n, v, hevent, hid, rfl⟩ := ends_bind.mp halloc
  obtain ⟨hn, rfl⟩ : UInt32.ofNat n = d.gs.allocId ∧
      u = { d with gs := d.gs.withNextId (d.gs.allocId + 1) } := ends_event.mp hevent
  obtain rfl : id = d.gs.allocId := hid.trans hn
  have hallocated : Does Compositing.chipAllocResourceId d d.gs.allocId
      { d with gs := d.gs.withNextId (d.gs.allocId + 1) } := by
    rintro c rfl
    exact ⟨rfl, rfl⟩
  obtain ⟨created, hcreated⟩ := after_calm hmade (chipResourceCreate3D_calm _ env)
  rcases ends_ite.mp hcreated with ⟨-, hattached⟩ | ⟨-, rfl, rfl⟩
  · obtain ⟨_, hfilled⟩ := after_calm hattached (chipCtxAttachResource_calm _ _ env)
    obtain ⟨alloc, strip, samplerView, hdoes⟩ :=
      fillTexture_ends (valid_of_uploadable hregion d.gs.allocId srcBpr) hfilled
    refine ⟨⟨.done, alloc, strip, samplerView⟩, fun replies hreplies => ?_⟩
    obtain ⟨hc, ha, hs, hv⟩ := TextureReplies.mk.inj hreplies
    refine Does.bind hallocated (Does.bind (create_does _ _ _ _) ?_)
    exact Does.ite_neg (by simp [hc]) (hdoes replies ha hs hv)
  · refine ⟨⟨.refused, false, fun _ => .done, .done⟩, fun replies hreplies => ?_⟩
    obtain ⟨hc, -, -, -⟩ := TextureReplies.mk.inj hreplies
    refine Does.bind hallocated (Does.bind (create_does _ _ _ _) ?_)
    exact Does.ite_pos (by simp [hc]) (Does.ret _ _)

theorem chipCompUploadBitmap_ends {srcData srcBpr w h' : UInt32} {hasAlpha : Bool}
    (h : TaskEnds env (chipCompUploadBitmap data srcData srcBpr w h' hasAlpha) d ok d') :
    ∃ destroyOldView answers, ∀ replies : CompositeReplies,
      replies.destroyOldView = destroyOldView → textureReplies replies = answers →
        Does (Compositing.chipCompUploadBitmap data replies srcData srcBpr w h' hasAlpha)
          d ok d' := by
  rcases after_guard h fun _ _ => pipelineReady_ends with ⟨hnot, rfl, rfl⟩ | ⟨hready, hchecked⟩
  · refine ⟨.done, textureReplies Compositing.allDone, fun replies _ _ => Does.read fun c hc => ?_⟩
    subst hc
    exact Does.ite_pos hnot (Does.ret _ _)
  rcases ends_ite.mp hchecked with ⟨hbad, rfl, rfl⟩ | ⟨hgood, hmade⟩
  · refine ⟨.done, textureReplies Compositing.allDone, fun replies _ _ => Does.read fun c hc => ?_⟩
    subst hc
    exact Does.ite_neg (not_not.mpr hready) (Does.ite_pos hbad (Does.ret _ _))
  obtain ⟨_, u, hfree, htexture⟩ := ends_bind.mp hmade
  obtain ⟨destroyOldView, hfreed⟩ := chipCompFreeTexture_ends hfree
  obtain ⟨answers, hdoes⟩ := makeTexture_ends (not_not.mp hgood) htexture
  refine ⟨destroyOldView, answers, fun replies hd hanswers => Does.read fun c hc => ?_⟩
  subst hc
  refine Does.ite_neg (not_not.mpr hready) (Does.ite_neg hgood ?_)
  exact Does.bind (hd ▸ hfreed _) (hdoes replies hanswers)

/-! ## Quads -/

theorem flushIf_calm (drawn : Bool) (x y w h : UInt32) : Calm (flushIf drawn x y w h) := by
  intro env
  refine Leaves.ite (Leaves.bind (look_calm _ env) fun _ => ?_) (Leaves.ret _)
  exact Leaves.bind (chipResourceFlush_calm _ _ _ _ _ env) fun _ => Leaves.ret _

theorem chipVirglDrawColoredQuad_ends {x y w h' : UInt32}
    (h : TaskEnds env (chipVirglDrawColoredQuad data x y w h') d ok d') :
    ∃ draw, ∀ replies : CompositeReplies, replies.draw = draw →
      Does (Compositing.chipVirglDrawColoredQuad env.objects data replies) d ok d' := by
  have hobjects (present : Bool) (u : Fields)
      (h : TaskEnds env (both (isSet .virgl2dVbufRes) (isSet .virgl2dVe)) d present u) :
      (present = true ↔ d.gs.virgl2dVbufRes ≠ 0 ∧ env.objects.ve ≠ 0) ∧ u = d := by
    refine both_ends h (fun _ _ h => flag_ends h ?_) fun _ _ h => flag_ends h ?_
    · rintro v rfl
      exact Iff.rfl
    · rintro v rfl
      exact Iff.rfl
  rcases after_guard h fun _ _ => pipelineReady_ends with ⟨hnot, rfl, rfl⟩ | ⟨hready, hchecked⟩
  · refine ⟨.done, fun replies _ => Does.read fun c hc => ?_⟩
    subst hc
    exact Does.ite_pos hnot (Does.ret _ _)
  rcases after_guard hchecked hobjects with ⟨hmissing, rfl, rfl⟩ | ⟨hpresent, hdrawn⟩
  · refine ⟨.done, fun replies _ => Does.read fun c hc => ?_⟩
    subst hc
    refine Does.ite_neg (not_not.mpr hready) (Does.ite_pos ?_ (Does.ret _ _))
    exact or_iff_not_and_not.mpr hmissing
  obtain ⟨ctxId, -, hlooked⟩ := after_look hdrawn
  obtain ⟨vbuf, rfl, hsubmitted⟩ := after_look hlooked
  obtain ⟨sent, v, hsubmit, hflushed⟩ := ends_bind.mp hsubmitted
  obtain ⟨draw, hdoes⟩ := virglSubmit_ends (short_draw _ _) hsubmit
  obtain ⟨_, rfl, rfl⟩ := after_calm hflushed (flushIf_calm _ _ _ _ _ env)
  refine ⟨draw, fun replies hanswer => Does.read fun c hc => ?_⟩
  subst hc
  refine Does.ite_neg (not_not.mpr hready) (Does.ite_neg (not_or.mpr hpresent) ?_)
  exact hanswer ▸ hdoes

theorem chipCompDrawTexturedQuad_ends {x y w h' : UInt32} {useLinear : Bool}
    (h : TaskEnds env (chipCompDrawTexturedQuad data x y w h' useLinear) d ok d') :
    ∃ draw restoreShader, ∀ replies : CompositeReplies, replies.draw = draw →
      replies.restoreShader = restoreShader →
        Does (Compositing.chipCompDrawTexturedQuad env.objects data replies useLinear) d ok d' := by
  have hobjects (present : Bool) (u : Fields)
      (h : TaskEnds env (both (isSet .compTexView) (isSet .virgl2dVbufRes)) d present u) :
      (present = true ↔ d.compTexView ≠ 0 ∧ d.gs.virgl2dVbufRes ≠ 0) ∧ u = d := by
    refine both_ends h (fun _ _ h => flag_ends h ?_) fun _ _ h => flag_ends h ?_
    · rintro v rfl
      exact Iff.rfl
    · rintro v rfl
      exact Iff.rfl
  rcases after_guard h fun _ _ => pipelineReady_ends with ⟨hnot, rfl, rfl⟩ | ⟨hready, hchecked⟩
  · refine ⟨.done, .done, fun replies _ _ => Does.read fun c hc => ?_⟩
    subst hc
    exact Does.ite_pos hnot (Does.ret _ _)
  rcases after_guard hchecked hobjects with ⟨hmissing, rfl, rfl⟩ | ⟨hpresent, hdrawn⟩
  · refine ⟨.done, .done, fun replies _ _ => Does.read fun c hc => ?_⟩
    subst hc
    refine Does.ite_neg (not_not.mpr hready) (Does.ite_pos ?_ (Does.ret _ _))
    exact or_iff_not_and_not.mpr hmissing
  obtain ⟨ctxId, -, hlooked⟩ := after_look hdrawn
  obtain ⟨fsTex, rfl, hlooked⟩ := after_look hlooked
  obtain ⟨sampler, hsampler, hlooked⟩ := after_look hlooked
  obtain ⟨view, rfl, hlooked⟩ := after_look hlooked
  obtain ⟨vbuf, rfl, hsubmitted⟩ := after_look hlooked
  obtain rfl : sampler =
      if useLinear then env.objects.samplerLinear else env.objects.sampler := by
    cases useLinear <;> exact hsampler
  obtain ⟨drawn, u, hsubmit, hflushed⟩ := ends_bind.mp hsubmitted
  obtain ⟨draw, hdraws⟩ := virglSubmit_ends (short_quad _ _ _ _ _) hsubmit
  obtain ⟨_, hrestored⟩ := after_calm hflushed (flushIf_calm _ _ _ _ _ env)
  obtain ⟨fs, rfl, hrestored⟩ := after_look hrestored
  obtain ⟨restored, v, hsubmit, rfl, rfl⟩ := ends_bind.mp hrestored
  obtain ⟨restoreShader, hrestores⟩ :=
    virglSubmit_ends (short_one (by simp [VirglCall.payload])) hsubmit
  refine ⟨draw, restoreShader, fun replies hd hr => Does.read fun c hc => ?_⟩
  subst hc
  refine Does.ite_neg (not_not.mpr hready) (Does.ite_neg (not_or.mpr hpresent) ?_)
  exact Does.bind (hd ▸ hdraws) (Does.bind (hr ▸ hrestores) (Does.ret _ _))

/-! ## `chip_virgl_composite` -/

variable {call : HookCall} {args : ParsedTags} {err : CompError}

theorem restoreBlend_ends {ctxId : UInt32} (h : TaskEnds env (restoreBlend ctxId ok) d err d') :
    ∃ restoreBlend, ∀ replies : CompositeReplies, replies.restoreBlend = restoreBlend →
      Does (Compositing.restoreBlend env.objects replies ok) d err d' := by
  obtain ⟨blend, rfl, hrest⟩ := after_look h
  obtain ⟨sent, u, hsubmit, rfl, rfl⟩ := ends_bind.mp hrest
  obtain ⟨answer, hdoes⟩ := virglSubmit_ends (short_one (by simp [VirglCall.payload])) hsubmit
  exact ⟨answer, fun replies hanswer => Does.bind (hanswer ▸ hdoes) (Does.ret _ _)⟩

theorem srcBpr_eq (env : HookEnv) (call : HookCall) (args : ParsedTags) :
    (request env call args).srcBpr = srcBpr call.source := by
  cases hsource : call.source <;> simp [request, Compositing.sourceData, srcBpr, hsource]

/-- The data of a call of the other model. -/
def drawingData (env : HookEnv) : DrawingData := ⟨env.address, env.data⟩

theorem compositeSolid_ends {ctxId : UInt32}
    (h : TaskEnds env (compositeSolid (drawingData env) ctxId (args.compArgs env.bits)) d err d') :
    ∃ replies : CompositeReplies, ∀ bindBlend,
      Does (Compositing.compositeSolid env.objects env.data { replies with bindBlend := bindBlend })
        d err d' := by
  obtain ⟨drawn, u, hquad, hrest⟩ := ends_bind.mp h
  obtain ⟨draw, hdraws⟩ := chipVirglDrawColoredQuad_ends hquad
  obtain ⟨restore, hrestores⟩ := restoreBlend_ends hrest
  refine ⟨{ Compositing.allDone with draw := draw, restoreBlend := restore }, fun bindBlend => ?_⟩
  exact Does.bind (hdraws _ rfl) (hrestores _ rfl)

theorem compositeBitMap_ends {ctxId : UInt32}
    (h : TaskEnds env (compositeBitMap (drawingData env) ctxId call.source
      (call.source.format env.iGraphics) (args.compArgs env.bits)) d err d') :
    ∃ replies : CompositeReplies, ∀ bindBlend,
      Does (Compositing.compositeBitMap env.bits env.objects env.data
        { replies with bindBlend := bindBlend } (request env call args)) d err d' := by
  have hformat : call.source.format env.iGraphics = (request env call args).srcFormat :=
    (Compositing.srcFormat_eq env call args).symm
  rw [hformat] at h
  rcases ends_ite.mp h with ⟨hbpp, rfl, rfl⟩ | ⟨hbpp, hchecked⟩
  · exact ⟨Compositing.allDone, fun _ => Does.ite_pos hbpp (Does.ret _ _)⟩
  rcases ends_ite.mp hchecked with ⟨hregion, rfl, rfl⟩ | ⟨hregion, hbody⟩
  · exact ⟨Compositing.allDone, fun _ => Does.ite_neg hbpp (Does.ite_pos hregion (Does.ret _ _))⟩
  obtain ⟨uploaded, u, hupload, hrest⟩ := ends_bind.mp hbody
  have hsource : call.source.region env.address args.srcX args.srcY =
      (request env call args).srcRegion := (Compositing.srcRegion_eq env call args).symm
  have hupload' : TaskEnds env (chipCompUploadBitmap env.data (request env call args).srcRegion
      (request env call args).srcBpr (request env call args).srcW.toUInt32
        (request env call args).srcH.toUInt32 (request env call args).hasAlpha) d uploaded u := by
    rw [← hsource, srcBpr_eq]
    exact hupload
  obtain ⟨destroyOldView, answers, huploads⟩ := chipCompUploadBitmap_ends hupload'
  -- what the upload has not asked for is still open
  let base : CompositeReplies := { Compositing.allDone with
    destroyOldView := destroyOldView, create := answers.create, alloc := answers.alloc,
    strip := answers.strip, samplerView := answers.samplerView }
  rcases ends_ite.mp hrest with ⟨hyes, hdrawn⟩ | ⟨hno, rfl, rfl⟩
  · obtain ⟨drawn, v, hquad, hfreed⟩ := ends_bind.mp hdrawn
    obtain ⟨draw, restoreShader, hdraws⟩ := chipCompDrawTexturedQuad_ends hquad
    obtain ⟨_, w, hfree, hrestored⟩ := ends_bind.mp hfreed
    obtain ⟨destroyView, hfrees⟩ := chipCompFreeTexture_ends hfree
    obtain ⟨restore, hrestores⟩ := restoreBlend_ends hrestored
    refine ⟨{ base with
      draw := draw, restoreShader := restoreShader, destroyView := destroyView,
      restoreBlend := restore }, fun bindBlend => ?_⟩
    refine Does.ite_neg hbpp (Does.ite_neg hregion (Does.bind (huploads _ rfl rfl) ?_))
    refine Does.ite_neg (by simp [hyes]) (Does.bind (hdraws _ rfl rfl) ?_)
    exact Does.bind (hfrees _) (hrestores _ rfl)
  · refine ⟨base, fun bindBlend => ?_⟩
    refine Does.ite_neg hbpp (Does.ite_neg hregion (Does.bind (huploads _ rfl rfl) ?_))
    exact Does.ite_pos (by simpa using hno) (Does.ret _ _)

/-- A call that does not get past its checks. -/
theorem stopped_does {replies : CompositeReplies}
    (h : ∀ c, fields c = d →
      Compositing.validate env.bits env.objects (request env call args) c = some err) :
    Does (Compositing.chipVirglComposite env.bits env.objects env.data replies
      (request env call args)) d err d := by
  intro c hc
  rw [Compositing.chipVirglComposite_stopped (h c hc)]
  exact ⟨rfl, hc⟩

/-- From the operator's blend state on. -/
theorem compositeBound_ends
    (hpast : ∀ c, fields c = d →
      Compositing.validate env.bits env.objects (request env call args) c = none)
    (h : TaskEnds env (compositeBound (drawingData env) call.operator call.source
      (call.source.format env.iGraphics) (args.compArgs env.bits)) d err d') :
    ∃ replies, Does (Compositing.chipVirglComposite env.bits env.objects env.data replies
      (request env call args)) d err d' := by
  have hpasses (replies : CompositeReplies)
      (hdoes : Does (Compositing.virglSubmit [.bindObject objectBlend
        (env.objects.compBlends call.operator)] replies.bindBlend >>= fun bound =>
          if !bound then pure .generic
          else Compositing.compositeBound env.bits env.objects env.data replies
            (request env call args)) d err d') :
      Does (Compositing.chipVirglComposite env.bits env.objects env.data replies
        (request env call args)) d err d' := by
    intro c hc
    rw [Compositing.chipVirglComposite_passes (hpast c hc)]
    exact hdoes c hc
  obtain ⟨ctxId, -, hlooked⟩ := after_look h
  obtain ⟨blend, rfl, hsubmitted⟩ := after_look hlooked
  obtain ⟨bound, u, hsubmit, hrest⟩ := ends_bind.mp hsubmitted
  obtain ⟨bindBlend, hbinds⟩ := virglSubmit_ends (short_one (by simp [VirglCall.payload])) hsubmit
  rcases ends_ite.mp hrest with ⟨hno, rfl, rfl⟩ | ⟨hyes, hdrawn⟩
  · refine ⟨{ Compositing.allDone with bindBlend := bindBlend }, hpasses _ ?_⟩
    exact Does.bind hbinds (Does.ite_pos hno (Does.ret _ _))
  rcases ends_ite.mp hdrawn with ⟨hsolid, hcolour⟩ | ⟨hsolid, hbitmap⟩
  · obtain ⟨replies, hdoes⟩ := compositeSolid_ends hcolour
    refine ⟨{ replies with bindBlend := bindBlend }, hpasses _ ?_⟩
    exact Does.bind hbinds (Does.ite_neg hyes (Does.ite_pos hsolid (hdoes _)))
  · obtain ⟨replies, hdoes⟩ := compositeBitMap_ends hbitmap
    refine ⟨{ replies with bindBlend := bindBlend }, hpasses _ ?_⟩
    exact Does.bind hbinds (Does.ite_neg hyes (Does.ite_neg hsolid (hdoes _)))

/-- A composition that nobody disturbs is one of the compositor. -/
theorem chipVirglComposite_ends
    (h : TaskEnds env (chipVirglComposite (drawingData env) call.operator call.source
      (call.source.format env.iGraphics) (args.compArgs env.bits)) d err d') :
    ∃ replies, Does (Compositing.chipVirglComposite env.bits env.objects env.data replies
      (request env call args)) d err d' := by
  have hvalidate (c : Compositor) (hc : fields c = d) :
      Compositing.validate env.bits env.objects (request env call args) c =
        if ¬ (d.gs.virgl2dReady = true ∧ d.gs.virglShadersOk = true) then some .generic
        else if call.operator ≥ 15 then some .unknownOperator
        else if (args.compArgs env.bits).flags.forceSoftware then some .softwareFallback
        else if (args.compArgs env.bits).flags.color1Modulate then some .softwareFallback
        else if env.objects.compBlends call.operator = 0 then some .softwareFallback
        else if args.dstW ≤ 0 ∨ args.dstH ≤ 0 then some .value
        else if call.source ≠ .solidColor ∧ (args.srcW ≠ args.dstW ∨ args.srcH ≠ args.dstH) then
          some .softwareFallback
        else none := by
    subst hc
    simp only [ParsedTags.compArgs, bne_iff_ne]
    rfl
  -- the checks, in the order of the source
  rcases after_guard h fun _ _ => pipelineReady_ends with ⟨hnot, rfl, rfl⟩ | ⟨hready, hready'⟩
  · exact ⟨Compositing.allDone, stopped_does fun c hc => (hvalidate c hc).trans (if_pos hnot)⟩
  replace hvalidate := fun c hc => (hvalidate c hc).trans (if_neg (not_not.mpr hready))
  rcases ends_ite.mp hready' with ⟨hop, rfl, rfl⟩ | ⟨hop, hop'⟩
  · exact ⟨Compositing.allDone, stopped_does fun c hc => (hvalidate c hc).trans (if_pos hop)⟩
  replace hvalidate := fun c hc => (hvalidate c hc).trans (if_neg hop)
  rcases ends_ite.mp hop' with ⟨hforce, rfl, rfl⟩ | ⟨hforce, hforce'⟩
  · exact ⟨Compositing.allDone, stopped_does fun c hc => (hvalidate c hc).trans (if_pos hforce)⟩
  replace hvalidate := fun c hc => (hvalidate c hc).trans (if_neg hforce)
  rcases ends_ite.mp hforce' with ⟨hcolour, rfl, rfl⟩ | ⟨hcolour, hcolour'⟩
  · exact ⟨Compositing.allDone, stopped_does fun c hc => (hvalidate c hc).trans (if_pos hcolour)⟩
  replace hvalidate := fun c hc => (hvalidate c hc).trans (if_neg hcolour)
  obtain ⟨blend, rfl, hlooked⟩ := after_look hcolour'
  rcases ends_ite.mp hlooked with ⟨hblend, rfl, rfl⟩ | ⟨hblend, hblend'⟩
  · exact ⟨Compositing.allDone, stopped_does fun c hc => (hvalidate c hc).trans (if_pos hblend)⟩
  replace hvalidate := fun c hc => (hvalidate c hc).trans (if_neg hblend)
  rcases ends_ite.mp hblend' with ⟨hempty, rfl, rfl⟩ | ⟨hempty, hempty'⟩
  · exact ⟨Compositing.allDone, stopped_does fun c hc => (hvalidate c hc).trans (if_pos hempty)⟩
  replace hvalidate := fun c hc => (hvalidate c hc).trans (if_neg hempty)
  rcases ends_ite.mp hempty' with ⟨hscaled, rfl, rfl⟩ | ⟨hscaled, hbound⟩
  · exact ⟨Compositing.allDone, stopped_does fun c hc => (hvalidate c hc).trans (if_pos hscaled)⟩
  exact compositeBound_ends (fun c hc => (hvalidate c hc).trans (if_neg hscaled)) hbound

/-! ## The hook -/

theorem isOurs_ends {planes0 : ℕ} {ours : Bool}
    (h : TaskEnds env (isOurs (env.address planes0)) d ours d') :
    (ours = true ↔ d.gs.OnBoard env.address planes0) ∧ d' = d := by
  obtain ⟨boardMem, rfl, hrest⟩ := after_look h
  rcases ends_ite.mp hrest with ⟨hle, hlooked⟩ | ⟨hlt, rfl, rfl⟩
  · obtain ⟨start, rfl, hlooked⟩ := after_look hlooked
    obtain ⟨size, rfl, rfl, rfl⟩ := after_look hlooked
    rw [decide_eq_true_iff]
    exact ⟨(and_iff_right hle).symm, rfl⟩
  · exact ⟨⟨fun htrue => absurd htrue Bool.false_ne_true, fun hboard => absurd hboard.1 hlt⟩, rfl⟩

/-- The hook of the compositor ends with this result, and leaves these fields. -/
def HookEnds (env : HookEnv) (call : HookCall) (result : Option CompError) (d' : Fields)
    (ended : Option (UInt32 × Compositing.HookState)) : Prop :=
  ∃ st', ended = some (result.elim (env.original call) env.errorCode, st') ∧
    st'.chip.map fields = some d'

variable {result : Option CompError} {c : Compositor} {st : Compositing.HookState}

theorem original_ends (hchip : st.chip = some c) (hc : fields c = d)
    (h : TaskEnds env (do
      act .original
      return none) d result d') :
    HookEnds env call result d' (Compositing.callOriginal env call st) := by
  obtain ⟨_, rfl, rfl⟩ := after_calm h (Leaves.act fun _ _ _ h => h)
  refine ⟨_, rfl, ?_⟩
  change st.chip.map fields = some d'
  rw [hchip, ← hc]
  rfl

/-- What follows the composition; after a success the result of the original method is dropped. -/
theorem finish_ends (hchip : st.chip = some c) (hc : fields c = d)
    (h : TaskEnds env (do
      mutexRelease
      act .original
      return if err = .success then some err else none) d result d') :
    HookEnds env call result d' (Compositing.finish env call err st) := by
  obtain ⟨_, hreleased⟩ := after_calm h Leaves.release
  obtain ⟨_, rfl, rfl⟩ := after_calm hreleased (Leaves.act fun _ _ _ h => h)
  subst hc
  have hfields : st.chip.map fields = some (fields c) := by
    rw [hchip]
    rfl
  unfold Compositing.finish
  by_cases hok : err = .success
  · rw [if_neg (not_not.mpr hok), if_pos hok]
    exact ⟨_, rfl, hfields⟩
  · rw [if_pos hok, if_neg hok]
    exact ⟨_, rfl, hfields⟩

theorem attemptHardware_ends (hchip : st.chip = some c) (hc : fields c = d)
    {called : CompositeCall} (hoperator : called.operator = call.operator)
    (hsource : called.source = call.source)
    (h : TaskEnds env (attemptHardware (drawingData env) called (args.compArgs env.bits))
      d result d') :
    ∃ replies, HookEnds env call result d'
      (Compositing.attemptHardware env replies c call args st) := by
  subst hc
  obtain ⟨double, hdouble, hrest⟩ := after_flag h fun _ hv => hv
  rcases ends_ite.mp hrest with ⟨hyes, hleft⟩ | ⟨hno, hsingle⟩
  · have hdouble' : c.gs.doubleBuffer = true := hdouble.mp hyes
    refine ⟨Compositing.allDone, ?_⟩
    rw [Compositing.attemptHardware, if_pos hdouble']
    exact original_ends hchip rfl hleft
  have hsingle' : ¬ c.gs.doubleBuffer = true := fun htrue => hno (hdouble.mpr htrue)
  obtain ⟨graphics, hgraphics, hformat⟩ := after_flag hsingle fun _ hv => hv
  obtain rfl : graphics = env.iGraphics := Bool.eq_iff_iff.mpr hgraphics
  have hformat' : (Compositing.sourceData env call.source).2.2 =
      called.source.format env.iGraphics := by
    rw [hsource]
    exact Compositing.srcFormat_eq env call args
  rcases ends_ite.mp hformat with ⟨hbpp, hleft⟩ | ⟨hbpp, hlocked⟩
  · refine ⟨Compositing.allDone, ?_⟩
    rw [Compositing.attemptHardware, if_neg hsingle', hformat', if_pos hbpp]
    exact original_ends hchip rfl hleft
  obtain ⟨_, hinside⟩ := after_calm hlocked Leaves.obtain
  obtain ⟨err, u, hcomposed, hfinished⟩ := ends_bind.mp hinside
  rw [hoperator, hsource] at hcomposed
  obtain ⟨replies, hdoes⟩ := chipVirglComposite_ends hcomposed
  obtain ⟨hresult, hfields⟩ := hdoes c rfl
  refine ⟨replies, ?_⟩
  rw [Compositing.attemptHardware, if_neg hsingle', hformat', if_neg hbpp]
  change HookEnds env call result d' (Compositing.finish env call (Compositing.chipVirglComposite
    env.bits env.objects env.data replies (request env call args) c).1 { st with
      chip := some (Compositing.chipVirglComposite env.bits env.objects env.data replies
        (request env call args) c).2
      composites := request env call args :: st.composites })
  rw [hresult]
  exact finish_ends rfl hfields hfinished

/-- From the check of the tags on. -/
theorem forwardOrAttempt_ends (hchip : st.chip = some c) (hc : fields c = d)
    {called : CompositeCall} (hoperator : called.operator = call.operator)
    (hsource : called.source = call.source)
    (h : TaskEnds env (if (args.compArgs env.bits).hasVertexArray = true ∨
        (args.compArgs env.bits).hasAlphaMask = true then do
          act .original
          return none
      else attemptHardware (drawingData env) called (args.compArgs env.bits)) d result d') :
    ∃ replies, HookEnds env call result d'
      (Compositing.forwardOrAttempt env replies c call args st) := by
  rcases ends_ite.mp h with ⟨hunsupported, hleft⟩ | ⟨hsupported, htried⟩
  · have hunsupported' : args.hasVertexArray = true ∨ args.hasAlphaMask = true := hunsupported
    refine ⟨Compositing.allDone, ?_⟩
    rw [Compositing.forwardOrAttempt, if_pos hunsupported']
    exact original_ends hchip hc hleft
  · have hsupported' : ¬ (args.hasVertexArray = true ∨ args.hasAlphaMask = true) := hsupported
    obtain ⟨replies, hends⟩ := attemptHardware_ends hchip hc hoperator hsource htried
    refine ⟨replies, ?_⟩
    rw [Compositing.forwardOrAttempt, if_neg hsupported']
    exact hends

/-- A call of the hook that nobody disturbs is one of the compositor: the same result, and the same
fields. -/
theorem hookCompositeTagList_ends {items : List Compositing.TagItem} (hchip : st.chip = some c)
    (hitems : Compositing.Flattens env.load call.tags items)
    (h : TaskEnds env (hookCompositeTagList (drawingData env)
      (Compositing.cardCall env call items)) (fields c) result d') :
    ∃ replies n, ∀ fuel ≥ n, HookEnds env call result d'
      (Compositing.hookCompositeTagList env replies fuel call st) := by
  obtain ⟨n, hn⟩ := @Compositing.parseTags_eq env.numbers env.load items call.tags hitems {}
  have hparse : ∀ fuel ≥ n, Compositing.parseTags env.numbers env.load fuel call.tags {} =
      some (Compositing.lastValues env.numbers items) := by
    intro fuel hfuel
    rw [hn fuel hfuel, Compositing.foldl_set]
  obtain ⟨ready, u, hboth, hrest⟩ := ends_bind.mp (function_ends h)
  obtain ⟨hready, rfl⟩ : (ready = true ↔ True ∧ c.gs.virgl2dReady = true) ∧ u = fields c := by
    refine both_ends hboth (fun _ _ h => flag_ends h fun v hv => ?_) fun _ _ h =>
      flag_ends h fun _ hv => hv
    exact iff_of_true hv trivial
  cases hdestination : call.destination with
  | none =>
      have hnone : (Compositing.cardCall env call items).destination = none := hdestination
      simp only [hnone] at hrest
      refine ⟨Compositing.allDone, n, fun fuel _ => ?_⟩
      rw [Compositing.hook_without fuel (Or.inr hdestination)]
      exact original_ends hchip rfl hrest
  | some destination =>
      have hsome : (Compositing.cardCall env call items).destination = some destination :=
        hdestination
      cases ready with
      | false =>
          have hnot : c.gs.virgl2dReady = false := by simpa using hready
          refine ⟨Compositing.allDone, n, fun fuel hfuel => ?_⟩
          rw [Compositing.hook_parsed fuel hchip hdestination (hparse fuel hfuel), if_pos hnot]
          exact original_ends hchip rfl hrest
      | true =>
          have hnot : ¬ c.gs.virgl2dReady = false := by simpa using hready
          simp only [hsome] at hrest
          obtain ⟨ours, u, hlook, hchecked⟩ := ends_bind.mp hrest
          obtain ⟨hours, rfl⟩ := isOurs_ends hlook
          rcases ends_ite.mp hchecked with ⟨hno, hleft⟩ | ⟨hyes, hinside⟩
          · have hother : ¬ Compositing.IsOurs env c destination := by
              intro h
              simp [hours.mpr h] at hno
            refine ⟨Compositing.allDone, n, fun fuel hfuel => ?_⟩
            rw [Compositing.hook_parsed fuel hchip hdestination (hparse fuel hfuel), if_neg hnot,
              if_pos hother]
            exact original_ends hchip rfl hleft
          have hours' : Compositing.IsOurs env c destination := hours.mp (by simpa using hyes)
          obtain ⟨graphics, hgraphics, hparsed⟩ := after_flag hinside fun _ hv => hv
          obtain rfl : graphics = env.pipeline.iGraphics := Bool.eq_iff_iff.mpr hgraphics
          rw [Compositing.cardCall_args hdestination items] at hparsed
          obtain ⟨replies, hends⟩ := forwardOrAttempt_ends hchip rfl rfl rfl hparsed
          refine ⟨replies, n, fun fuel hfuel => ?_⟩
          rw [Compositing.hook_parsed fuel hchip hdestination (hparse fuel hfuel), if_neg hnot,
            if_neg (not_not.mpr hours')]
          exact hends

/-- The hook of the card leaves the same record. -/
theorem hookCompositeTagList_record {items : List Compositing.TagItem}
    (hitems : Compositing.Flattens env.load call.tags items)
    (h : TaskEnds env (hookCompositeTagList (drawingData env)
      (Compositing.cardCall env call items)) (fields c) result d') :
    ∃ outcomes : CompositeEnv, ∀ card : CardState, card.gs = some c.gs →
      (Card.hookCompositeTagList env.address env.pipeline (Compositing.cardCall env call items)
        outcomes card).2.gs = some d'.gs := by
  let st : Compositing.HookState := ⟨some c, [], []⟩
  have hchip : st.chip = some c := rfl
  obtain ⟨replies, n, hends⟩ := hookCompositeTagList_ends hchip hitems h
  obtain ⟨n', hcard⟩ := Compositing.hookCompositeTagList_card env replies call st hitems
  obtain ⟨outcomes, hsame⟩ := hcard (max n n') (Nat.le_max_right _ _)
  obtain ⟨last, hlast, hfields⟩ := hends (max n n') (Nat.le_max_left _ _)
  refine ⟨outcomes, fun card hgs => ?_⟩
  obtain ⟨code, last', hlast', hrecord, -⟩ := hsame card hgs
  obtain ⟨-, rfl⟩ := Prod.mk.inj (Option.some.inj (hlast.symm.trans hlast'))
  rw [hrecord]
  calc
    last.chip.map Compositor.gs = (last.chip.map fields).map Fields.gs := by
      rw [Option.map_map]
      rfl
    _ = some d'.gs := by rw [hfields]; rfl

end Tasks

/-! ## Runs -/

section Runs

variable {ι : Type} [DecidableEq ι] {i : ι} {before after : State ι Event} {env : HookEnv}
  {d d' : Fields}

theorem exists_flag (φ : Prop) : ∃ v : UInt32, v ≠ 0 ↔ φ := by
  by_cases h : φ
  · exact ⟨1, iff_of_true (by decide) h⟩
  · exact ⟨0, iff_of_false (not_not.mpr rfl) h⟩

theorem Shown.exists (env : HookEnv) (d : Fields) (field : GsField) : ∃ v, Shown env d v field := by
  cases field with
  | virgl2dReady | virglCtxError | virglShadersOk | doubleBuffer | iGraphics | cmd3dBuf =>
      exact exists_flag _
  | boardMem | boardMemSize | virgl2dVbufRes | virgl2dVe | virgl2dFs | virgl2dFsTex
  | virgl2dSampler | virgl2dSamplerLinear | virgl2dBlend | compBlends | compNextHandle
  | compTexRes | compTexView => exact ⟨_, rfl⟩
  | chipState => exact ⟨1, (by decide : (1 : UInt32) ≠ 0)⟩
  | _ => exact ⟨0, trivial⟩

theorem Stored.exists (d : Fields) (v : UInt32) (field : GsField) : ∃ d', Stored d v d' field := by
  cases field with
  | virglCtxError | compNextHandle | compTexRes | compTexView | compTexW | compTexH =>
      exact ⟨_, rfl⟩
  | _ => exact ⟨d, trivial⟩

/-- Every event is answered. -/
theorem React.exists (env : HookEnv) (d : Fields) (e : Event) :
    ∃ answer d', React env d e answer d' := by
  cases e with
  | look field =>
      obtain ⟨v, hv⟩ := Shown.exists env d field
      refine ⟨v.toNat, d, ?_, rfl⟩
      rwa [UInt32.ofNat_toNat]
  | put field v =>
      obtain ⟨d', hd'⟩ := Stored.exists d v field
      exact ⟨0, d', hd'⟩
  | allocResourceId => exact ⟨d.gs.allocId.toNat, _, UInt32.ofNat_toNat, rfl⟩
  | _ => exact ⟨0, d, rfl⟩

/-- A call comes to its end when nobody else holds the lock or takes turns. -/
theorem GpuCall.exists_alone (call : GpuCall) (env : HookEnv) (d : Fields)
    (hcalled : before.threads i = call.code) (hfree : FreeFor before.owner i) :
    ∃ after d', Alone (React env) i before d after d' ∧ after.threads i = .done () := by
  obtain ⟨_, d', hends⟩ := exists_ends (React.exists env) call.code d
  obtain ⟨after, hrun, hdone⟩ := Ends.alone hcalled hfree hends
  exact ⟨after, d', hrun, hdone⟩

/-- What a task that calls the hook leaves is what the hook of the card leaves, when nobody disturbs
it. -/
theorem hook_alone {call : HookCall} {items : List Compositing.TagItem} {c : Compositor}
    (hitems : Compositing.Flattens env.load call.tags items)
    (hcalled : before.threads i =
      (GpuCall.compositeTagList (drawingData env) (Compositing.cardCall env call items)).code)
    (hrun : Alone (React env) i before (fields c) after d')
    (hdone : after.threads i = .done ()) :
    ∃ outcomes : CompositeEnv, ∀ card : CardState, card.gs = some c.gs →
      (Card.hookCompositeTagList env.address env.pipeline (Compositing.cardCall env call items)
        outcomes card).2.gs = some d'.gs := by
  have hends := hrun.ends hdone
  rw [hcalled] at hends
  obtain ⟨result, u, hhook, -, rfl⟩ := ends_bind.mp hends
  exact hookCompositeTagList_record hitems hhook

end Runs

end VirtIOGPU.Locking
