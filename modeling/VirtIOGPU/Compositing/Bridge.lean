import VirtIOGPU.Compositing.Hook
import VirtIOGPU.Virgl.Overflow

/-!
# One `virgl_submit`, one `chip_virgl_composite`

`virgl_submit` and `chip_virgl_composite` are modelled several times, each time with what is said
about them in mind.

```text
model                 a submission is         what is kept                  composes
Virgl.virglSubmit     words in a buffer       the messages, the error       -
Card.virglSubmit      one answer              ChipGPUState                  yes, with a `TagList`
virglSubmit           calls and an answer     ChipGPUState, the host        yes, with tags in memory
```

Here they are shown to agree.  The host performs calls exactly when the device is handed a message
with their words (`virglSubmit_stream`); with the host forgotten, a submission is that of the card
(`virglSubmit_card`).  Whole compositions, and calls of the hook, end with the same result and the
same `ChipGPUState` (`chipVirglComposite_card`, `hookCompositeTagList_card`).  The model in which
other tasks run in between is compared with these in `Locking.Bridge`.

## Strategy

The card is told how an upload ends; the compositor finds out, strip by strip.  So the answers for
the card are read off the run of the compositor (`uploadOutcome`, `outcome`).  The two keep their
books differently in one respect.  A stream that fails in the middle of an upload is an error in
the context at once for the compositor, and only at the end of the upload for the card.  Therefore
`RecordIs` compares the records up to the error, which is settled when the upload is over:
with a texture there is none, and without one `uploadPoisons` says (`UploadEnds`).

From there on the two run in step, one submission after the other.
-/

namespace VirtIOGPU.Compositing

open Card Drawing Lib.Hoare
open Virgl (VirglCall UploadRequest VirglCmdBuf encodeCalls virglCmdReset emitted)

/-! ## `virgl_submit` -/

section Submit

variable {calls : List VirglCall} {s : Compositor}

theorem gpuCommand_eq (effect : Compositor → Compositor) (answer : GpuAnswer) (s : Compositor) :
    gpuCommand effect answer s = (answer == .done, s.afterCommand effect answer) := by
  cases answer <;> rfl

/-- The three ways of a submission: after an error, without a buffer, and with an answer. -/
theorem virglSubmit_run (hcalls : calls ≠ []) (answer : GpuAnswer) (s : Compositor) :
    virglSubmit calls answer s =
      if s.gs.virglCtxError = true then (false, s)
      else if s.gs.cmd3dBuf = 0 then (false, s.poisoned)
      else markFailure (answer == .done) (s.afterCommand (fun t => t.ran calls) answer) := by
  have hstart : virglSubmit calls answer s =
      (if calls = [] then pure true
        else if s.gs.virglCtxError = true then pure false
          else chipSubmit3D calls answer >>= markFailure : Composer Bool) s := by
    unfold virglSubmit
    split <;> rfl
  have hsubmit : chipSubmit3D calls answer s =
      (if s.gs.cmd3dBuf = 0 then pure false
        else gpuCommand (fun t => t.ran calls) answer : Composer Bool) s := rfl
  rw [hstart, if_neg hcalls]
  by_cases herror : s.gs.virglCtxError = true
  · rw [if_pos herror, if_pos herror]
    rfl
  rw [if_neg herror, if_neg herror]
  by_cases hbuf : s.gs.cmd3dBuf = 0
  · rw [if_pos hbuf] at hsubmit ⊢
    exact bind_apply hsubmit
  · rw [if_neg hbuf] at hsubmit ⊢
    exact bind_apply (hsubmit.trans (gpuCommand_eq _ _ _))

theorem virglSubmit_stopped (hcalls : calls ≠ []) (answer : GpuAnswer)
    (hstop : s.gs.virglCtxError = true ∨ s.gs.cmd3dBuf = 0) :
    virglSubmit calls answer s = (false, s.poisoned) := by
  rw [virglSubmit_run hcalls]
  by_cases herror : s.gs.virglCtxError = true
  · have hsame : s.poisoned = s := by
      calc
        s.poisoned = { s with gs := { s.gs with virglCtxError := true } } := rfl
        _ = { s with gs := { s.gs with virglCtxError := s.gs.virglCtxError } } := by rw [herror]
        _ = s := rfl
    rw [if_pos herror, hsame]
  · rw [if_neg herror, if_pos (hstop.resolve_left herror)]

theorem virglSubmit_reached (hcalls : calls ≠ []) (answer : GpuAnswer)
    (hgo : ¬ (s.gs.virglCtxError = true ∨ s.gs.cmd3dBuf = 0)) :
    virglSubmit calls answer s =
      markFailure (answer == .done) (s.afterCommand (fun t => t.ran calls) answer) := by
  rw [virglSubmit_run hcalls, if_neg (not_or.mp hgo).1, if_neg (not_or.mp hgo).2]

/-- A submission fails exactly when there is an error afterwards. -/
theorem virglSubmit_error (hcalls : calls ≠ []) (answer : GpuAnswer) (s : Compositor) :
    (virglSubmit calls answer s).2.gs.virglCtxError = !(virglSubmit calls answer s).1 := by
  by_cases hstop : s.gs.virglCtxError = true ∨ s.gs.cmd3dBuf = 0
  · rw [virglSubmit_stopped hcalls answer hstop]
    rfl
  · rw [virglSubmit_reached hcalls answer hstop]
    cases answer with
    | done => exact Bool.eq_false_iff.mpr (not_or.mp hstop).1
    | refused => rfl
    | lost => rfl

/-- With the host forgotten it is the function of the card. -/
theorem virglSubmit_card (hcalls : calls ≠ []) (answer : GpuAnswer) (s : Compositor) :
    Card.virglSubmit s.gs (answer == .done) =
      ((virglSubmit calls answer s).1, (virglSubmit calls answer s).2.gs) := by
  rw [virglSubmit_run hcalls]
  unfold Card.virglSubmit
  by_cases herror : s.gs.virglCtxError = true
  · rw [if_pos herror, if_pos herror]
  rw [if_neg herror, if_neg herror]
  by_cases hbuf : s.gs.cmd3dBuf = 0
  · rw [if_pos hbuf, if_neg fun h => h.1 hbuf]
    rfl
  rw [if_neg hbuf]
  cases answer with
  | done =>
      rw [if_pos ⟨hbuf, rfl⟩]
      rfl
  | refused =>
      rw [if_neg fun h => Bool.noConfusion h.2]
      rfl
  | lost =>
      rw [if_neg fun h => Bool.noConfusion h.2]
      rfl

theorem virglSubmit_gs (hcalls : calls ≠ []) (answer : GpuAnswer) (s : Compositor) :
    (virglSubmit calls answer s).2.gs = (Card.virglSubmit s.gs (answer == .done)).2 := by
  rw [virglSubmit_card hcalls]

end Submit

/-! ## The stream -/

section Stream

variable {calls : List VirglCall} {s : Compositor} {device : Wrappers.GpuDevice} {ctxId : UInt32}
  {cbuf : VirglCmdBuf} {gs : Virgl.VirglState}

theorem emitted_ne_nil (hcalls : calls ≠ []) : emitted calls ≠ [] := by
  obtain ⟨call, rest, rfl⟩ := List.exists_cons_of_ne_nil hcalls
  exact List.cons_ne_nil _ _

theorem stream_error (hsome : cbuf.dwords ≠ 0) :
    (Virgl.virglSubmit device ctxId cbuf gs).2.virglCtxError =
      !(Virgl.virglSubmit device ctxId cbuf gs).1.1 := by
  cases herror : gs.virglCtxError with
  | true =>
      rw [Virgl.virglSubmit_poisoned hsome herror]
      exact herror
  | false => rw [Virgl.virglSubmit_submits hsome herror]

/-- The same submission, once as calls and once as the words of a buffer that holds them. -/
structure SameSubmission (calls : List VirglCall) (s t : Compositor) (ok : Bool)
    (gs : Virgl.VirglState) (ended : (Bool × VirglCmdBuf) × Virgl.VirglState) : Prop where
  result : ended.1.1 = ok
  error : ended.2.virglCtxError = t.gs.virglCtxError
  /-- The host performs the calls when it is handed a message with their words. -/
  host : (ended.2.channel.handed = gs.channel.handed ∧ t.host = s.host) ∨
    ∃ message, ended.2.channel.handed = message :: gs.channel.handed ∧
      Virgl.readWords (Virgl.streamOf message) = some (emitted calls) ∧
        t.host = s.host.execute calls

/-- Calls that fit: for every device there is an answer with which both submissions end alike. -/
theorem virglSubmit_stream (device : Wrappers.GpuDevice) (ctxId : UInt32)
    (hfits : (emitted calls).length ≤ cbuf.maxDwords.toNat)
    (herror : s.gs.virglCtxError = gs.virglCtxError)
    (hbuf : s.gs.cmd3dBuf ≠ 0 ↔ gs.channel.gs.cmd3dBuf = true) :
    ∃ answer, SameSubmission calls s (virglSubmit calls answer s).2 (virglSubmit calls answer s).1
      gs (Virgl.virglSubmit device ctxId (encodeCalls calls (virglCmdReset cbuf)) gs) := by
  obtain ⟨hcontents, hdwords⟩ := Virgl.encodeCalls_reset calls cbuf
  rw [List.take_of_length_le hfits] at hcontents
  rw [Nat.min_eq_right hfits] at hdwords
  by_cases hcalls : calls = []
  · subst hcalls
    have hempty : (encodeCalls [] (virglCmdReset cbuf)).dwords = 0 := UInt32.toNat_inj.mp hdwords
    rw [Virgl.virglSubmit_empty hempty]
    exact ⟨.done, rfl, herror.symm, Or.inl ⟨rfl, rfl⟩⟩
  have hsome : (encodeCalls calls (virglCmdReset cbuf)).dwords ≠ 0 := by
    intro hzero
    rw [hzero] at hdwords
    exact emitted_ne_nil hcalls (List.eq_nil_of_length_eq_zero hdwords.symm)
  have hends {answer : GpuAnswer}
      (hresult : (Virgl.virglSubmit device ctxId (encodeCalls calls (virglCmdReset cbuf)) gs).1.1 =
        (virglSubmit calls answer s).1) :
      (Virgl.virglSubmit device ctxId (encodeCalls calls (virglCmdReset cbuf)) gs).2.virglCtxError =
        (virglSubmit calls answer s).2.gs.virglCtxError := by
    rw [stream_error hsome, hresult, virglSubmit_error hcalls]
  by_cases hstop : Virgl.Stopped (encodeCalls calls (virglCmdReset cbuf)).dwords gs
  · -- nothing is sent: the driver sees a failure, and the host nothing
    obtain ⟨hresult, hhanded⟩ := Virgl.virglSubmit_stopped device ctxId hsome hstop
    have hrefused : virglSubmit calls .refused s = (false, s.poisoned) := by
      by_cases hearly : s.gs.virglCtxError = true ∨ s.gs.cmd3dBuf = 0
      · exact virglSubmit_stopped hcalls _ hearly
      · exact virglSubmit_reached hcalls _ hearly
    have hsame : (Virgl.virglSubmit device ctxId (encodeCalls calls (virglCmdReset cbuf)) gs).1.1 =
        (virglSubmit calls .refused s).1 := by rw [hresult, hrefused]
    refine ⟨.refused, hsame, hends hsame, Or.inl ⟨hhanded, ?_⟩⟩
    rw [hrefused]
    rfl
  · obtain ⟨message, hhanded, hwords⟩ := Virgl.virglSubmit_sends device ctxId hsome hstop
    have hgo : ¬ (s.gs.virglCtxError = true ∨ s.gs.cmd3dBuf = 0) := by
      rintro (hpoisoned | hnone)
      · exact hstop (Or.inl (herror ▸ hpoisoned))
      · refine hstop (Or.inr (Or.inl ?_))
        exact Bool.eq_false_iff.mpr fun htrue => hbuf.mpr htrue hnone
    have hran (answer : GpuAnswer) (hsent : answer ≠ .refused) :
        (virglSubmit calls answer s).1 = (answer == .done) ∧
          (virglSubmit calls answer s).2.host = s.host.execute calls := by
      rw [virglSubmit_reached hcalls _ hgo]
      cases answer with
      | done => exact ⟨rfl, rfl⟩
      | refused => exact absurd rfl hsent
      | lost => exact ⟨rfl, rfl⟩
    rw [hcontents] at hwords
    -- what the device has answered is what the driver sees
    cases hresult : (Virgl.virglSubmit device ctxId (encodeCalls calls (virglCmdReset cbuf))
      gs).1.1 with
    | true =>
        obtain ⟨hok, hhost⟩ := hran .done (by decide)
        exact ⟨.done, hresult.trans hok.symm, hends (hresult.trans hok.symm),
          Or.inr ⟨message, hhanded, hwords, hhost⟩⟩
    | false =>
        obtain ⟨hok, hhost⟩ := hran .lost (by decide)
        exact ⟨.lost, hresult.trans hok.symm, hends (hresult.trans hok.symm),
          Or.inr ⟨message, hhanded, hwords, hhost⟩⟩

end Stream

/-! ## The record, up to its error -/

/-- The record is `gs`, whatever has become of `virgl_ctx_error`. -/
def RecordIs (gs : GpuState) (s : Compositor) : Prop := s.gs.withCtxError = gs.withCtxError

section Record

variable {gs : GpuState} {s : Compositor} {data : StreamData} {replies : CompositeReplies}

theorem RecordIs.eq (h : RecordIs gs s) (herror : s.gs.virglCtxError = gs.virglCtxError) :
    s.gs = gs := by
  have hrecord : s.gs.withCtxError = gs.withCtxError := h
  calc
    s.gs = { s.gs.withCtxError with virglCtxError := s.gs.virglCtxError } := rfl
    _ = { gs.withCtxError with virglCtxError := gs.virglCtxError } := by rw [hrecord, herror]
    _ = gs := rfl

/-- From a record without an error. -/
theorem RecordIs.poisonedIf (h : RecordIs gs s) (hclean : gs.virglCtxError = false) :
    s.gs = gs.poisonedIf s.gs.virglCtxError := by
  cases herror : s.gs.virglCtxError with
  | false => exact h.eq (herror.trans hclean.symm)
  | true =>
      have hpoisoned : RecordIs gs.withCtxError s := h
      exact hpoisoned.eq herror

theorem virglSubmit_record (calls : List VirglCall) (answer : GpuAnswer) :
    Stable (RecordIs gs) (virglSubmit calls answer) := by
  intro s hs
  by_cases hcalls : calls = []
  · subst hcalls
    exact hs
  have hkept : (Card.virglSubmit s.gs (answer == .done)).2.withCtxError = s.gs.withCtxError := by
    unfold Card.virglSubmit
    split
    · rfl
    · split <;> rfl
  change (virglSubmit calls answer s).2.gs.withCtxError = gs.withCtxError
  rw [virglSubmit_gs hcalls, hkept]
  exact hs

/-- A submission that succeeds leaves no error. -/
theorem virglSubmit_clean {calls : List VirglCall} (hcalls : calls ≠ []) (answer : GpuAnswer)
    (s : Compositor) (hok : (virglSubmit calls answer s).1 = true) :
    (virglSubmit calls answer s).2.gs.virglCtxError = false := by
  rw [virglSubmit_error hcalls, hok]
  rfl

theorem chipResourceUnref_record (id : UInt32) (answer : GpuAnswer) :
    Stable (RecordIs gs) (chipResourceUnref id answer) := by
  intro s hs
  cases answer <;> exact hs

theorem uploadStrips_record (r : UploadRequest) (fuel : ℕ) (rowsDone : UInt32) :
    Stable (RecordIs gs) (uploadStrips data replies r fuel rowsDone) := by
  induction fuel generalizing rowsDone with
  | zero => exact Stable.ret _
  | succ fuel ih =>
      refine Stable.ite (Stable.bind (virglSubmit_record _ _) fun ok => ?_) (Stable.ret _)
      exact Stable.ite (ih _) (Stable.ret _)

/-- How an upload ends: with a texture and no error, or with neither. -/
def UploadEnds (gs : GpuState) (id : UInt32) (ok : Bool) (s : Compositor) : Prop :=
  RecordIs (if ok then gs.withCompTex id else gs) s ∧
    (ok = true → s.gs.virglCtxError = false ∧ s.compTexView ≠ 0)

theorem discard_record (id res : UInt32) :
    Triple (RecordIs gs) (discard replies res) (UploadEnds gs id) :=
  Triple.bind (chipResourceUnref_record _ _) fun _ =>
    Triple.ret fun _ hs => ⟨hs, fun h => absurd h Bool.false_ne_true⟩

theorem viewTexture_record (id format : UInt32) :
    Triple (RecordIs gs) (viewTexture replies id format) (UploadEnds gs id) := by
  have hhandle : Triple (RecordIs gs) compAllocHandle fun view s => view ≠ 0 ∧ RecordIs gs s :=
    fun s hs => ⟨s.nextHandle_ne_zero, hs⟩
  refine Triple.bind hhandle fun view => Triple.fact fun hview => ?_
  have hsubmit : Triple (RecordIs gs)
      (virglSubmit [.createSamplerView ⟨view, id, format, 0, 0, 0, 1, 2, 3⟩] replies.samplerView)
      fun submitted s => RecordIs gs s ∧ (submitted = true → s.gs.virglCtxError = false) :=
    fun s hs => ⟨virglSubmit_record _ _ s hs, virglSubmit_clean (List.cons_ne_nil _ _) _ s⟩
  refine Triple.bind hsubmit fun submitted => Triple.ite (fun _ => ?_) fun hsubmitted => ?_
  · exact (discard_record id id).weaken fun s hs => hs.1
  · have hyes : submitted = true := by simpa using hsubmitted
    intro s hs
    refine ⟨?_, fun _ => ⟨hs.2 hyes, hview⟩⟩
    exact congrArg (fun g : GpuState => g.withCompTex id) hs.1

theorem fillTexture_record (r : UploadRequest) (format : UInt32) :
    Triple (RecordIs gs) (fillTexture data replies r format) (UploadEnds gs r.res) := by
  have hpixels : Stable (RecordIs gs) (chipCompUploadPixels32bpp data replies r) :=
    Stable.ite (uploadStrips_record _ _ _) (Stable.ret _)
  refine Triple.bind hpixels fun uploaded => Triple.ite (fun _ => ?_) fun _ => ?_
  · exact discard_record _ _
  · exact viewTexture_record _ _

/-- The id that `chip_alloc_resource_id` gives out. -/
theorem chipAllocResourceId_record :
    Triple (RecordIs gs) chipAllocResourceId fun id s =>
      id = gs.allocId ∧ RecordIs (gs.withNextId (gs.allocId + 1)) s := by
  intro s hs
  have hrecord : s.gs.withCtxError = gs.withCtxError := hs
  have hid : s.gs.allocId = gs.allocId := by
    calc
      s.gs.allocId = s.gs.withCtxError.allocId := rfl
      _ = gs.withCtxError.allocId := by rw [hrecord]
      _ = gs.allocId := rfl
  refine ⟨hid, ?_⟩
  calc
    (s.gs.withNextId (s.gs.allocId + 1)).withCtxError =
        s.gs.withCtxError.withNextId (s.gs.allocId + 1) := rfl
    _ = gs.withCtxError.withNextId (gs.allocId + 1) := by rw [hrecord, hid]
    _ = (gs.withNextId (gs.allocId + 1)).withCtxError := rfl

theorem makeTexture_record (srcData srcBpr srcW srcH : UInt32) (hasAlpha : Bool) :
    Triple (RecordIs gs) (makeTexture data replies srcData srcBpr srcW srcH hasAlpha) fun ok s =>
      (ok = true → replies.create = .done) ∧
        UploadEnds (gs.withNextId (gs.allocId + 1)) gs.allocId ok s := by
  refine Triple.bind chipAllocResourceId_record fun id => Triple.fact fun hid => ?_
  subst hid
  have hcreate : Triple (RecordIs (gs.withNextId (gs.allocId + 1)))
      (chipResourceCreate3D gs.allocId ⟨pipeFmt hasAlpha, srcW, srcH⟩ replies.create)
      fun created s => created = (replies.create == .done) ∧
        RecordIs (gs.withNextId (gs.allocId + 1)) s := by
    intro s hs
    cases replies.create <;> exact ⟨rfl, hs⟩
  refine Triple.bind hcreate fun created => Triple.fact fun hcreated => ?_
  refine Triple.ite (fun _ => ?_) fun hyes => ?_
  · exact Triple.ret fun s hs => ⟨fun h => absurd h Bool.false_ne_true, hs,
      fun h => absurd h Bool.false_ne_true⟩
  · have hdone : replies.create = .done := by simpa [hcreated] using hyes
    exact (fillTexture_record _ _).strengthen fun ok s hs => ⟨fun _ => hdone, hs⟩

theorem chipCompFreeTexture_record (destroyView unref : GpuAnswer) :
    Triple (RecordIs gs) (chipCompFreeTexture destroyView unref) fun _ =>
      RecordIs (gs.withCompTex 0) := by
  intro s hs
  by_cases hnone : s.gs.compTexRes = 0
  · have hrun : chipCompFreeTexture destroyView unref s = (⟨⟩, s) := by
      change (if s.gs.compTexRes = 0 then pure ⟨⟩ else _ : Composer Unit) s = _
      rw [if_pos hnone]
      rfl
    have hsame : s.gs.withCompTex 0 = s.gs := by
      rw [← hnone]
      rfl
    rw [hrun]
    change s.gs.withCtxError = (gs.withCompTex 0).withCtxError
    rw [← hsame]
    exact congrArg (fun g : GpuState => g.withCompTex 0) hs
  · have hrun : chipCompFreeTexture destroyView unref s = (virglSubmit
        (if s.compTexView ≠ 0 then [.destroyObject objectSamplerView s.compTexView] else [])
        destroyView >>= fun _ => chipResourceUnref s.gs.compTexRes unref >>= fun _ =>
          modify fun s => s.withTexture 0 0) s := by
      change (if s.gs.compTexRes = 0 then pure ⟨⟩ else _ : Composer Unit) s = _
      rw [if_neg hnone]
    rw [hrun]
    have hrest : Triple (RecordIs gs) (virglSubmit
        (if s.compTexView ≠ 0 then [.destroyObject objectSamplerView s.compTexView] else [])
        destroyView >>= fun _ => chipResourceUnref s.gs.compTexRes unref >>= fun _ =>
          modify fun s => s.withTexture 0 0) fun _ => RecordIs (gs.withCompTex 0) := by
      refine Triple.bind (virglSubmit_record _ _) fun _ => ?_
      refine Triple.bind (chipResourceUnref_record _ _) fun _ => Triple.update fun t ht => ?_
      exact congrArg (fun g : GpuState => g.withCompTex 0) ht
    exact hrest s hs

/-- The record after an upload that gets as far as `chip_alloc_resource_id`. -/
def afterUpload (gs : GpuState) (ok : Bool) : GpuState :=
  let allocated := (gs.withCompTex 0).withNextId (gs.allocId + 1)
  if ok then allocated.withCompTex gs.allocId else allocated

theorem chipCompUploadBitmap_record {srcData srcBpr srcW srcH : UInt32} {hasAlpha : Bool}
    (hready : s.gs.virgl2dReady = true ∧ s.gs.virglShadersOk = true)
    (hregion : Uploadable srcData srcW srcH) :
    let uploaded := chipCompUploadBitmap data replies srcData srcBpr srcW srcH hasAlpha s
    (uploaded.1 = true → replies.create = .done) ∧
      RecordIs (afterUpload s.gs uploaded.1) uploaded.2 ∧
        (uploaded.1 = true →
          uploaded.2.gs.virglCtxError = false ∧ uploaded.2.compTexView ≠ 0) := by
  intro uploaded
  have hrun : uploaded = (chipCompFreeTexture replies.destroyOldView replies.unrefOld >>= fun _ =>
      makeTexture data replies srcData srcBpr srcW srcH hasAlpha) s := by
    change (if ¬ (s.gs.virgl2dReady = true ∧ s.gs.virglShadersOk = true) then pure false
      else if ¬ Uploadable srcData srcW srcH then pure false else _ : Composer Bool) s = _
    rw [if_neg (not_not.mpr hready), if_neg (not_not.mpr hregion)]
  have hmade := Triple.bind (@chipCompFreeTexture_record s.gs replies.destroyOldView
    replies.unrefOld) (fun _ => @makeTexture_record (s.gs.withCompTex 0) data replies srcData
      srcBpr srcW srcH hasAlpha) s rfl
  rw [hrun]
  exact hmade

/-! ## Textures -/

/-- How the upload comes out for the card. -/
def uploadOutcome (data : StreamData) (replies : CompositeReplies)
    (srcData srcBpr srcW srcH : UInt32) (hasAlpha : Bool) (s : Compositor) : UploadEnv where
  srcData := srcData != 0
  srcW := srcW
  srcH := srcH
  unrefPrevious := replies.unrefOld
  create := replies.create
  pixels := (chipCompUploadBitmap data replies srcData srcBpr srcW srcH hasAlpha s).1
  samplerView := true
  unref := replies.unrefFailed

theorem card_frees (gs : GpuState) (answer : GpuAnswer) :
    Results (Card.chipCompFreeTexture gs answer) fun gs' => gs' = gs.withCompTex 0 := by
  refine Results.ite (fun hnone => Results.ret ?_) fun _ => Results.skip fun _ => Results.ret rfl
  rw [← hnone]
  rfl

/-- The function of the card, where it makes a texture or tries to. -/
theorem card_uploads {env : UploadEnv} (huploads : gs.Uploads env) :
    Results (Card.chipCompUploadBitmap gs env) fun r =>
      r = let ok := env.create == .done && (env.pixels && env.samplerView)
        (ok, afterUpload gs ok) := by
  refine Results.ite (fun hnot => absurd huploads hnot) fun _ => ?_
  refine Results.bind (card_frees gs env.unrefPrevious) fun gs' hgs' => ?_
  subst hgs'
  refine Results.bind (createCommand_results _ _ _) fun created hcreated => ?_
  have hdone : created = (env.create == .done) := by
    rw [Bool.eq_iff_iff, hcreated, beq_iff_eq]
  subst hdone
  refine Results.ite (fun hnot => Results.ret ?_) fun hyes => ?_
  · have hno : (env.create == .done) = false := by simpa using hnot
    rw [hno]
    rfl
  have hyes' : (env.create == .done) = true := by simpa using hyes
  rw [hyes']
  refine Results.ite (fun hnot => Results.skip fun _ => Results.ret ?_) fun hwritten =>
    Results.ret ?_
  · rw [Bool.not_eq_true'] at hnot
    rw [hnot]
    rfl
  · have hboth : (env.pixels && env.samplerView) = true := by simpa using hwritten
    rw [hboth]
    rfl

/-- The two uploads end alike. -/
theorem chipCompUploadBitmap_card (srcData srcBpr srcW srcH : UInt32) (hasAlpha : Bool)
    (hclean : s.gs.virglCtxError = false) :
    let uploaded := chipCompUploadBitmap data replies srcData srcBpr srcW srcH hasAlpha s
    Results (Card.chipCompUploadBitmap s.gs
        (uploadOutcome data replies srcData srcBpr srcW srcH hasAlpha s)) fun r =>
      r.1 = uploaded.1 ∧ uploaded.2.gs = r.2.poisonedIf uploaded.2.gs.virglCtxError ∧
        (uploaded.1 = true → uploaded.2.gs = r.2 ∧ uploaded.2.compTexView ≠ 0) := by
  intro uploaded
  by_cases hready : s.gs.virgl2dReady = true ∧ s.gs.virglShadersOk = true
  · by_cases hregion : Uploadable srcData srcW srcH
    · obtain ⟨hcreate, hrecord, hends⟩ :=
        @chipCompUploadBitmap_record s data replies srcData srcBpr srcW srcH hasAlpha hready hregion
      have huploads : s.gs.Uploads
          (uploadOutcome data replies srcData srcBpr srcW srcH hasAlpha s) :=
        ⟨hready, ⟨hregion.1.1, hregion.1.2.1, bne_iff_ne.mpr hregion.1.2.2⟩, hregion.2⟩
      have hok : ((uploadOutcome data replies srcData srcBpr srcW srcH hasAlpha s).create ==
          .done && ((uploadOutcome data replies srcData srcBpr srcW srcH hasAlpha s).pixels &&
            (uploadOutcome data replies srcData srcBpr srcW srcH hasAlpha s).samplerView)) =
          uploaded.1 := by
        change (replies.create == .done && (uploaded.1 && true)) = uploaded.1
        cases hresult : uploaded.1 with
        | false => simp
        | true => simp [hcreate hresult]
      have hclean' : (afterUpload s.gs uploaded.1).virglCtxError = false := by
        unfold afterUpload
        cases uploaded.1 <;> exact hclean
      refine (card_uploads huploads).weaken fun r hr => ?_
      rw [hok] at hr
      subst hr
      refine ⟨rfl, hrecord.poisonedIf hclean', fun hyes => ?_⟩
      exact ⟨hrecord.eq ((hends hyes).1.trans hclean'.symm), (hends hyes).2⟩
    · have hrun : uploaded = (false, s) := by
        change (if ¬ (s.gs.virgl2dReady = true ∧ s.gs.virglShadersOk = true) then pure false
          else if ¬ Uploadable srcData srcW srcH then pure false else _ : Composer Bool) s = _
        rw [if_neg (not_not.mpr hready), if_pos hregion]
        rfl
      rw [hrun, hclean]
      refine Results.ite (fun _ => Results.ret ⟨rfl, rfl, fun h => absurd h Bool.false_ne_true⟩)
        fun huploads => ?_
      have huploads' := not_not.mp huploads
      exact absurd ⟨⟨huploads'.2.1.1, huploads'.2.1.2.1, bne_iff_ne.mp huploads'.2.1.2.2⟩,
        huploads'.2.2⟩ hregion
  · have hrun : uploaded = (false, s) := by
      change (if ¬ (s.gs.virgl2dReady = true ∧ s.gs.virglShadersOk = true) then pure false
        else _ : Composer Bool) s = _
      rw [if_pos hready]
      rfl
    rw [hrun, hclean]
    refine Results.ite (fun _ => Results.ret ⟨rfl, rfl, fun h => absurd h Bool.false_ne_true⟩)
      fun huploads => absurd (not_not.mp huploads).1 hready

end Record

/-! ## Quads -/

section Quads

variable {p : PipelineObjects} {data : StreamData} {replies : CompositeReplies} {s : Compositor}
  {env : CompositeEnv} {pipeline : Pipeline}

/-- The streams of the draws come out alike. -/
structure SameAnswers (env : CompositeEnv) (replies : CompositeReplies) : Prop where
  draw : env.draw = (replies.draw == .done)
  restoreShader : env.restoreShader = (replies.restoreShader == .done)
  destroyView : env.destroyView = (replies.destroyView == .done)
  restoreBlend : env.restoreBlend = (replies.restoreBlend == .done)

/-- A function of the card and one of the compositor, with the same result and the same record. -/
def SameEnd (f : Driver Drawn) (ended : Bool × Compositor) : Prop :=
  Results f fun drawn => drawn.ok = ended.1 ∧ drawn.gs = ended.2.gs

theorem submitQuad_card {calls : List VirglCall} (hcalls : calls ≠ []) (quad : Quad)
    (hdraw : env.draw = (replies.draw == .done)) :
    SameEnd (submitQuad s.gs quad env) (virglSubmit calls replies.draw s) := by
  have hsubmit := virglSubmit_card hcalls replies.draw s
  rw [← hdraw] at hsubmit
  unfold submitQuad SameEnd
  rw [hsubmit]
  exact Results.skip fun _ => Results.ret ⟨rfl, rfl⟩

theorem chipVirglDrawColoredQuad_card (x y w h argb : UInt32) (hve : pipeline.ve = p.ve)
    (hsame : SameAnswers env replies) :
    SameEnd (Card.chipVirglDrawColoredQuad pipeline s.gs x y w h argb env)
      (chipVirglDrawColoredQuad p data replies s) := by
  have hrun : chipVirglDrawColoredQuad p data replies s =
      (if ¬ (s.gs.virgl2dReady = true ∧ s.gs.virglShadersOk = true) then pure false
        else if s.gs.virgl2dVbufRes = 0 ∨ p.ve = 0 then pure false
        else virglSubmit (drawCalls data s.gs.virgl2dVbufRes) replies.draw : Composer Bool) s := rfl
  rw [hrun]
  refine Results.ite (fun hready => ?_) fun hready => ?_
  · rw [if_pos hready]
    exact Results.ret ⟨rfl, rfl⟩
  rw [if_neg hready, ← hve]
  refine Results.ite (fun hmissing => ?_) fun hmissing => ?_
  · rw [if_pos hmissing]
    exact Results.ret ⟨rfl, rfl⟩
  rw [if_neg hmissing]
  exact submitQuad_card (List.cons_ne_nil _ _) _ hsame.draw

theorem virglSubmit_view (calls : List VirglCall) (answer : GpuAnswer) (view : UInt32) :
    Stable (fun s => s.compTexView = view) (virglSubmit calls answer) := by
  refine Stable.ite (Stable.ret _) (Stable.bind Stable.read fun s => Stable.ite (Stable.ret _) ?_)
  refine Stable.bind (Stable.bind Stable.read fun s => Stable.ite (Stable.ret _) ?_) fun ok => ?_
  · intro t ht
    cases answer <;> exact ht
  · exact Stable.bind (Stable.onlyIf (Stable.update fun _ ht => ht)) fun _ => Stable.ret _

theorem chipCompDrawTexturedQuad_card (x y w h : UInt32) (linear : Bool)
    (hview : s.compTexView ≠ 0) (hsame : SameAnswers env replies) :
    SameEnd (Card.chipCompDrawTexturedQuad s.gs x y w h linear env)
      (chipCompDrawTexturedQuad p data replies linear s) := by
  have hrun : chipCompDrawTexturedQuad p data replies linear s =
      (if ¬ (s.gs.virgl2dReady = true ∧ s.gs.virglShadersOk = true) then pure false
        else if s.compTexView = 0 ∨ s.gs.virgl2dVbufRes = 0 then pure false
        else virglSubmit ([.bindShader shaderFragment p.fsTex,
            .bindSamplerStates shaderFragment 0 [if linear then p.samplerLinear else p.sampler],
            .setSamplerViews shaderFragment 0 [s.compTexView]] ++
              drawCalls data s.gs.virgl2dVbufRes) replies.draw >>= fun ok =>
          virglSubmit [.bindShader shaderFragment p.fs] replies.restoreShader >>= fun _ =>
            pure ok : Composer Bool) s := rfl
  rw [hrun]
  refine Results.ite (fun hready => ?_) fun hready => ?_
  · rw [if_pos hready]
    exact Results.ret ⟨rfl, rfl⟩
  rw [if_neg hready]
  refine Results.ite (fun hvbuf => ?_) fun hvbuf => ?_
  · rw [if_pos (Or.inr hvbuf)]
    exact Results.ret ⟨rfl, rfl⟩
  rw [if_neg (not_or.mpr ⟨hview, hvbuf⟩)]
  refine Results.bind (submitQuad_card (List.cons_ne_nil _ _) _ hsame.draw) fun drawn hdrawn =>
    Results.ret ⟨hdrawn.1, ?_⟩
  rw [hdrawn.2, hsame.restoreShader]
  exact (virglSubmit_gs (List.cons_ne_nil _ _) replies.restoreShader _).symm

/-- A draw makes no texture. -/
theorem chipCompDrawTexturedQuad_view (p : PipelineObjects) (data : StreamData)
    (replies : CompositeReplies) (linear : Bool) (view : UInt32) :
    Stable (fun s => s.compTexView = view) (chipCompDrawTexturedQuad p data replies linear) := by
  refine Stable.bind Stable.read fun s => Stable.ite (Stable.ret _) (Stable.ite (Stable.ret _) ?_)
  refine Stable.bind (virglSubmit_view _ _ _) fun ok => ?_
  exact Stable.bind (virglSubmit_view _ _ _) fun _ => Stable.ret _

/-- The texture of the composition, given back. -/
theorem chipCompFreeTexture_card (hview : s.compTexView ≠ 0) (hsame : SameAnswers env replies) :
    Results (freeTexture s.gs env) fun gs =>
      gs = (chipCompFreeTexture replies.destroyView replies.unref s).2.gs := by
  have hrun : chipCompFreeTexture replies.destroyView replies.unref s =
      (if s.gs.compTexRes = 0 then pure ⟨⟩
        else virglSubmit (if s.compTexView ≠ 0 then
            [.destroyObject objectSamplerView s.compTexView] else []) replies.destroyView >>=
          fun _ => chipResourceUnref s.gs.compTexRes replies.unref >>= fun _ =>
            modify fun s => s.withTexture 0 0 : Composer Unit) s := rfl
  rw [hrun]
  refine Results.ite (fun hnone => ?_) fun hnone => ?_
  · rw [if_pos hnone]
    exact Results.ret rfl
  rw [if_neg hnone, if_pos hview]
  have hunref (t : Compositor) :
      (chipResourceUnref s.gs.compTexRes replies.unref t).2.gs = t.gs := by
    cases replies.unref <;> rfl
  refine (card_frees _ env.unrefTexture).weaken fun gs hgs => hgs.trans ?_
  rw [hsame.destroyView]
  calc
    (Card.virglSubmit s.gs (replies.destroyView == .done)).2.withCompTex 0 =
        (virglSubmit [.destroyObject objectSamplerView s.compTexView] replies.destroyView
          s).2.gs.withCompTex 0 := by rw [virglSubmit_gs (List.cons_ne_nil _ _)]
    _ = (chipResourceUnref s.gs.compTexRes replies.unref
          (virglSubmit [.destroyObject objectSamplerView s.compTexView] replies.destroyView
            s).2).2.gs.withCompTex 0 := by rw [hunref]
    _ = _ := rfl

end Quads

/-! ## `chip_virgl_composite` -/

section Composite

/-- The arguments of the other model; a flag is set when its bit is. -/
def ParsedTags.compArgs (bits : CompFlagBits) (args : ParsedTags) : CompArgs where
  srcX := args.srcX
  srcY := args.srcY
  srcW := args.srcW
  srcH := args.srcH
  dstX := args.dstX
  dstY := args.dstY
  dstW := args.dstW
  dstH := args.dstH
  flags :=
    { forceSoftware := args.flags &&& bits.forceSoftware != 0
      color1Modulate := args.flags &&& bits.color1Modulate != 0
      srcFilter := args.flags &&& bits.srcFilter != 0 }
  color0 := args.color0
  hasVertexArray := args.hasVertexArray
  hasAlphaMask := args.hasAlphaMask

def HookEnv.pipeline (env : HookEnv) : Pipeline :=
  ⟨env.iGraphics, env.objects.ve, env.objects.compBlends⟩

/-- How the streams come out for the card; `flush` is the answer to `chip_ResourceFlush`. -/
def outcome (env : HookEnv) (replies : CompositeReplies) (flush : GpuAnswer)
    (r : CompositeRequest) (s : Compositor) : CompositeEnv :=
  let bound := (virglSubmit [.bindObject objectBlend (env.objects.compBlends r.op)]
    replies.bindBlend s).2
  { bindBlend := replies.bindBlend == .done
    upload := uploadOutcome env.data replies r.srcRegion r.srcBpr r.srcW.toUInt32 r.srcH.toUInt32
      r.hasAlpha bound
    uploadPoisons := (chipCompUploadBitmap env.data replies r.srcRegion r.srcBpr r.srcW.toUInt32
      r.srcH.toUInt32 r.hasAlpha bound).2.gs.virglCtxError
    draw := replies.draw == .done
    flush := flush
    restoreShader := replies.restoreShader == .done
    destroyView := replies.destroyView == .done
    unrefTexture := replies.unref
    restoreBlend := replies.restoreBlend == .done }

/-- The same for a composition. -/
def SameComposition (f : Driver Composition) (ended : CompError × Compositor) : Prop :=
  Results f fun composed => composed.result = ended.1 ∧ composed.gs = ended.2.gs

variable {env : HookEnv} {replies : CompositeReplies} {flush : GpuAnswer} {call : HookCall}
  {args : ParsedTags} {s : Compositor}

theorem srcRegion_eq (env : HookEnv) (call : HookCall) (args : ParsedTags) :
    (request env call args).srcRegion =
      call.source.region env.address args.srcX args.srcY := by
  cases hsource : call.source with
  | bitMap b => simp [CompositeRequest.srcRegion, request, sourceData, hsource, Source.region,
      BitMap.region]
  | solidColor => simp [CompositeRequest.srcRegion, request, sourceData, hsource, Source.region]
  | null => simp [CompositeRequest.srcRegion, request, sourceData, hsource, Source.region]

theorem srcFormat_eq (env : HookEnv) (call : HookCall) (args : ParsedTags) :
    (request env call args).srcFormat = call.source.format env.pipeline.iGraphics := by
  cases hsource : call.source with
  | bitMap b =>
      simp only [request, sourceData, hsource]
      rfl
  | solidColor => simp [request, sourceData, hsource, Source.format]
  | null => simp [request, sourceData, hsource, Source.format]

theorem restoreBlend_card (p : PipelineObjects) (ok : Bool) (t : Compositor) :
    restoreBlend p replies ok t = (if ok then .success else .generic,
      (virglSubmit [.bindObject objectBlend p.blend] replies.restoreBlend t).2) := rfl

theorem compositeSolid_card (card : CompositeEnv) (hsame : SameAnswers card replies) :
    SameComposition (Card.compositeSolid env.pipeline s.gs (args.compArgs env.bits) card)
      (compositeSolid env.objects env.data replies s) := by
  have hrun : compositeSolid env.objects env.data replies s =
      restoreBlend env.objects replies (chipVirglDrawColoredQuad env.objects env.data replies s).1
        (chipVirglDrawColoredQuad env.objects env.data replies s).2 := rfl
  rw [hrun, restoreBlend_card]
  have hquad : SameEnd (Card.chipVirglDrawColoredQuad env.pipeline s.gs args.dstX.toUInt32
      args.dstY.toUInt32 args.dstW.toUInt32 args.dstH.toUInt32 args.color0 card)
      (chipVirglDrawColoredQuad env.objects env.data replies s) :=
    chipVirglDrawColoredQuad_card _ _ _ _ _ rfl hsame
  refine Results.bind hquad fun drawn hdrawn => Results.ret ⟨?_, ?_⟩
  · rw [hdrawn.1]
  · rw [hdrawn.2, hsame.restoreBlend]
    exact (virglSubmit_gs (List.cons_ne_nil _ _) _ _).symm

/-- A composition on a texture, from the texture on. -/
theorem textured_card {t : Compositor} {linear : Bool} (x y w h : UInt32)
    (card : CompositeEnv) (hview : t.compTexView ≠ 0) (hsame : SameAnswers card replies) :
    SameComposition
      (do
        let drawn ← Card.chipCompDrawTexturedQuad t.gs x y w h linear card
        let gs ← freeTexture drawn.gs card
        return ⟨if drawn.ok then .success else .generic, drawn.quad,
          (Card.virglSubmit gs card.restoreBlend).2⟩)
      ((do
        let ok ← chipCompDrawTexturedQuad env.objects env.data replies linear
        chipCompFreeTexture replies.destroyView replies.unref
        restoreBlend env.objects replies ok : Composer CompError) t) := by
  have hquad : SameEnd (Card.chipCompDrawTexturedQuad t.gs x y w h linear card)
      (chipCompDrawTexturedQuad env.objects env.data replies linear t) :=
    chipCompDrawTexturedQuad_card _ _ _ _ _ hview hsame
  have hkept : (chipCompDrawTexturedQuad env.objects env.data replies linear t).2.compTexView ≠
      0 := by
    rw [chipCompDrawTexturedQuad_view _ _ _ _ t.compTexView t rfl]
    exact hview
  refine Results.bind hquad fun drawn hdrawn => ?_
  have hfreed := @chipCompFreeTexture_card replies
    (chipCompDrawTexturedQuad env.objects env.data replies linear t).2 card hkept hsame
  rw [← hdrawn.2] at hfreed
  refine Results.bind hfreed fun gs hgs => Results.ret ⟨?_, ?_⟩
  · rw [hdrawn.1]
    rfl
  · rw [hgs, hsame.restoreBlend]
    exact (virglSubmit_gs (List.cons_ne_nil _ _) _ _).symm

theorem compositeBitMap_card (card : CompositeEnv) (hclean : s.gs.virglCtxError = false)
    (hsame : SameAnswers card replies) :
    let r := request env call args
    let uploaded := chipCompUploadBitmap env.data replies r.srcRegion r.srcBpr r.srcW.toUInt32
      r.srcH.toUInt32 r.hasAlpha s
    card.upload = uploadOutcome env.data replies r.srcRegion r.srcBpr r.srcW.toUInt32
        r.srcH.toUInt32 r.hasAlpha s →
      card.uploadPoisons = uploaded.2.gs.virglCtxError →
        SameComposition (Card.compositeBitMap env.address env.pipeline s.gs call.source
            (args.compArgs env.bits) card)
          (compositeBitMap env.bits env.objects env.data replies r s) := by
  intro r uploaded hupload hpoisons
  have hrun : compositeBitMap env.bits env.objects env.data replies r s =
      (if chipFormatBpp r.srcFormat ≠ 4 then pure .softwareFallback
        else if ¬ r.RegionOk then pure .softwareFallback
        else chipCompUploadBitmap env.data replies r.srcRegion r.srcBpr r.srcW.toUInt32
          r.srcH.toUInt32 r.hasAlpha >>= fun uploaded =>
            if !uploaded then pure .outOfMemory
            else do
              let ok ← chipCompDrawTexturedQuad env.objects env.data replies
                (r.flags &&& env.bits.srcFilter != 0)
              chipCompFreeTexture replies.destroyView replies.unref
              restoreBlend env.objects replies ok : Composer CompError) s := rfl
  have hformat : r.srcFormat = call.source.format env.pipeline.iGraphics :=
    srcFormat_eq env call args
  rw [hrun, hformat]
  refine Results.ite (fun hbpp => ?_) fun hbpp => ?_
  · rw [if_pos hbpp]
    exact Results.ret ⟨rfl, rfl⟩
  rw [if_neg hbpp]
  refine Results.ite (fun hregion => ?_) fun hregion => ?_
  · have hbad : ¬ r.RegionOk := hregion
    rw [if_pos hbad]
    exact Results.ret ⟨rfl, rfl⟩
  have hgood : ¬ ¬ r.RegionOk := hregion
  rw [if_neg hgood]
  -- the card is told how the upload of the compositor ends
  have henv : uploadOf env.address call.source (args.compArgs env.bits) card =
      uploadOutcome env.data replies r.srcRegion r.srcBpr r.srcW.toUInt32 r.srcH.toUInt32
        r.hasAlpha s := by
    have hsource : r.srcRegion = call.source.region env.address args.srcX args.srcY :=
      srcRegion_eq env call args
    unfold uploadOf
    rw [hupload, hsource]
    rfl
  rw [henv]
  have hboth := @chipCompUploadBitmap_card s env.data replies r.srcRegion r.srcBpr
    r.srcW.toUInt32 r.srcH.toUInt32 r.hasAlpha hclean
  refine Results.bind hboth fun x hx => ?_
  obtain ⟨ok, gs⟩ := x
  obtain ⟨hok, hrecord, hview⟩ := hx
  have hstep : chipCompUploadBitmap env.data replies r.srcRegion r.srcBpr r.srcW.toUInt32
      r.srcH.toUInt32 r.hasAlpha s = (ok, uploaded.2) := Prod.ext hok.symm rfl
  rw [bind_apply hstep]
  refine Results.ite (fun hfailed => ?_) fun hdone => ?_
  · rw [if_pos hfailed, hpoisons]
    exact Results.ret ⟨rfl, hrecord.symm⟩
  · have hyes : uploaded.1 = true := hok.symm.trans (by simpa using hdone)
    obtain ⟨hgs, hview⟩ := hview hyes
    have hgs' : uploaded.2.gs = gs := hgs
    rw [if_neg hdone, ← hgs']
    exact textured_card _ _ _ _ card hview hsame

theorem chipVirglComposite_stopped {bits : CompFlagBits} {p : PipelineObjects} {data : StreamData}
    {r : CompositeRequest} {error : CompError} (h : validate bits p r s = some error) :
    chipVirglComposite bits p data replies r s = (error, s) := by
  simp only [chipVirglComposite, bind, StateT.bind, get, getThe, MonadStateOf.get, StateT.get,
    pure, h]
  rfl

theorem chipVirglComposite_passes {bits : CompFlagBits} {p : PipelineObjects} {data : StreamData}
    {r : CompositeRequest} (h : validate bits p r s = none) :
    chipVirglComposite bits p data replies r s =
      (virglSubmit [.bindObject objectBlend (p.compBlends r.op)] replies.bindBlend >>=
        fun bound => if !bound then pure .generic else compositeBound bits p data replies r) s := by
  simp only [chipVirglComposite, bind, StateT.bind, get, getThe, MonadStateOf.get, StateT.get,
    pure, h]

/-- A call that does not get past its checks. -/
theorem stopped_card {f : Driver Composition} {error : CompError}
    (hcard : f = pure ⟨error, none, s.gs⟩)
    (h : validate env.bits env.objects (request env call args) s = some error) :
    SameComposition f
      (chipVirglComposite env.bits env.objects env.data replies (request env call args) s) := by
  rw [chipVirglComposite_stopped h, hcard]
  exact Results.ret ⟨rfl, rfl⟩

/-- A call that gets past its checks: the operator's blend state, and what follows. -/
theorem bound_card (flush : GpuAnswer) {bound : Bool × GpuState}
    (hpast : validate env.bits env.objects (request env call args) s = none)
    (hbound : Card.virglSubmit s.gs
      (outcome env replies flush (request env call args) s).bindBlend = bound) :
    SameComposition
      (if !bound.1 then pure ⟨.generic, none, bound.2⟩
        else if call.source = .solidColor then
          Card.compositeSolid env.pipeline bound.2 (args.compArgs env.bits)
            (outcome env replies flush (request env call args) s)
        else Card.compositeBitMap env.address env.pipeline bound.2 call.source
          (args.compArgs env.bits) (outcome env replies flush (request env call args) s))
      (chipVirglComposite env.bits env.objects env.data replies (request env call args) s) := by
  have hcalls : [VirglCall.bindObject objectBlend (env.objects.compBlends
      (request env call args).op)] ≠ [] := List.cons_ne_nil _ _
  have hsame : SameAnswers (outcome env replies flush (request env call args) s) replies :=
    ⟨rfl, rfl, rfl, rfl⟩
  have hsubmit := hbound.symm.trans (virglSubmit_card hcalls replies.bindBlend s)
  have hbitmap := fun hclean => @compositeBitMap_card env replies call args (virglSubmit
    [.bindObject objectBlend (env.objects.compBlends (request env call args).op)]
    replies.bindBlend s).2 (outcome env replies flush (request env call args) s) hclean hsame
      rfl rfl
  have hclean := virglSubmit_clean hcalls replies.bindBlend s
  rw [chipVirglComposite_passes hpast]
  rcases hstep : virglSubmit [.bindObject objectBlend (env.objects.compBlends
    (request env call args).op)] replies.bindBlend s with ⟨ok, t⟩
  rw [hstep] at hsubmit hclean hbitmap
  rw [bind_apply hstep]
  subst hsubmit
  refine Results.ite (fun hno => ?_) fun hyes => ?_
  · have hno' : (!ok) = true := hno
    rw [if_pos hno']
    exact Results.ret ⟨rfl, rfl⟩
  have hyes' : ¬ (!ok) = true := hyes
  rw [if_neg hyes']
  refine Results.ite (fun hsolid => ?_) fun hsolid => ?_
  · have hsolid' : (request env call args).source = .solidColor := hsolid
    rw [compositeBound, if_pos hsolid']
    exact compositeSolid_card _ hsame
  · have hsolid' : ¬ (request env call args).source = .solidColor := hsolid
    rw [compositeBound, if_neg hsolid']
    exact hbitmap (hclean (by simpa using hyes'))

/-- Both compositions end alike, with the same result and the same record. -/
theorem chipVirglComposite_card (flush : GpuAnswer) :
    SameComposition
      (Card.chipVirglComposite env.address env.pipeline s.gs call.operator call.source
        (args.compArgs env.bits) (outcome env replies flush (request env call args) s))
      (chipVirglComposite env.bits env.objects env.data replies (request env call args) s) := by
  have hvalidate : validate env.bits env.objects (request env call args) s =
      if ¬ (s.gs.virgl2dReady = true ∧ s.gs.virglShadersOk = true) then some .generic
      else if call.operator ≥ 15 then some .unknownOperator
      else if args.flags &&& env.bits.forceSoftware ≠ 0 then some .softwareFallback
      else if args.flags &&& env.bits.color1Modulate ≠ 0 then some .softwareFallback
      else if env.objects.compBlends call.operator = 0 then some .softwareFallback
      else if args.dstW ≤ 0 ∨ args.dstH ≤ 0 then some .value
      else if call.source ≠ .solidColor ∧ (args.srcW ≠ args.dstW ∨ args.srcH ≠ args.dstH) then
        some .softwareFallback
      else none := rfl
  have hforce : (args.compArgs env.bits).flags.forceSoftware = true ↔
      args.flags &&& env.bits.forceSoftware ≠ 0 := bne_iff_ne
  have hmodulate : (args.compArgs env.bits).flags.color1Modulate = true ↔
      args.flags &&& env.bits.color1Modulate ≠ 0 := bne_iff_ne
  -- the checks, in the order of the source
  unfold Card.chipVirglComposite
  by_cases hready : ¬ (s.gs.virgl2dReady = true ∧ s.gs.virglShadersOk = true)
  · exact stopped_card (if_pos hready) (hvalidate.trans (if_pos hready))
  rw [if_neg hready]
  replace hvalidate := hvalidate.trans (if_neg hready)
  by_cases hop : call.operator ≥ 15
  · exact stopped_card (if_pos hop) (hvalidate.trans (if_pos hop))
  rw [if_neg hop]
  replace hvalidate := hvalidate.trans (if_neg hop)
  by_cases hsoftware : (args.compArgs env.bits).flags.forceSoftware = true
  · exact stopped_card (if_pos hsoftware) (hvalidate.trans (if_pos (hforce.mp hsoftware)))
  rw [if_neg hsoftware]
  replace hvalidate := hvalidate.trans (if_neg fun h => hsoftware (hforce.mpr h))
  by_cases hcolour : (args.compArgs env.bits).flags.color1Modulate = true
  · exact stopped_card (if_pos hcolour) (hvalidate.trans (if_pos (hmodulate.mp hcolour)))
  rw [if_neg hcolour]
  replace hvalidate := hvalidate.trans (if_neg fun h => hcolour (hmodulate.mpr h))
  by_cases hblend : env.pipeline.blends call.operator = 0
  · exact stopped_card (if_pos hblend) (hvalidate.trans (if_pos hblend))
  rw [if_neg hblend]
  replace hvalidate := hvalidate.trans (if_neg hblend)
  by_cases hempty : (args.compArgs env.bits).dstW ≤ 0 ∨ (args.compArgs env.bits).dstH ≤ 0
  · exact stopped_card (if_pos hempty) (hvalidate.trans (if_pos hempty))
  rw [if_neg hempty]
  replace hvalidate := hvalidate.trans (if_neg hempty)
  by_cases hscaled : call.source ≠ .solidColor ∧
      ((args.compArgs env.bits).srcW ≠ (args.compArgs env.bits).dstW ∨
        (args.compArgs env.bits).srcH ≠ (args.compArgs env.bits).dstH)
  · exact stopped_card (if_pos hscaled) (hvalidate.trans (if_pos hscaled))
  rw [if_neg hscaled]
  replace hvalidate := hvalidate.trans (if_neg hscaled)
  exact bound_card flush hvalidate rfl

end Composite

/-! ## The hook -/

section Hook

variable {env : HookEnv} {replies : CompositeReplies} {flush : GpuAnswer} {call : HookCall}
  {st : HookState} {args : ParsedTags} {s : Compositor}

/-- The item of the other model. -/
def CompTagName.compTag (bits : CompFlagBits) (tiData : UInt32) : CompTagName → CompTag
  | .srcX => .srcX tiData.toInt32
  | .srcY => .srcY tiData.toInt32
  | .srcWidth => .srcWidth tiData.toInt32
  | .srcHeight => .srcHeight tiData.toInt32
  | .destX => .destX tiData.toInt32
  | .destY => .destY tiData.toInt32
  | .destWidth => .destWidth tiData.toInt32
  | .destHeight => .destHeight tiData.toInt32
  | .flags => .flags ⟨tiData &&& bits.forceSoftware != 0, tiData &&& bits.color1Modulate != 0,
      tiData &&& bits.srcFilter != 0⟩
  | .color0 => .color0 tiData
  | .vertexArray => .vertexArray
  | .srcAlphaMask => .srcAlphaMask

def TagItem.compTag (env : HookEnv) (item : TagItem) : CompTag :=
  match env.numbers.name item.tiTag with
  | some name => name.compTag env.bits item.tiData
  | none => .unknown

/-- The items of a list in memory, one behind the other. -/
def tagList (env : HookEnv) (items : List TagItem) : TagList :=
  items.foldr (fun item rest => .item (item.compTag env) rest) .done

/-- The call of the other model. -/
def cardCall (env : HookEnv) (call : HookCall) (items : List TagItem) : CompositeCall :=
  ⟨call.operator, call.source, call.destination, tagList env items⟩

/-- The `switch` of the two loops, for one item. -/
theorem parse_item (item : TagItem) (rest : TagList) :
    CompArgs.parse 0 (.item (item.compTag env) rest) (args.compArgs env.bits) =
      CompArgs.parse 0 rest
        ((args.set env.numbers item.tiTag item.tiData).compArgs env.bits) := by
  unfold TagItem.compTag ParsedTags.set
  cases env.numbers.name item.tiTag with
  | none => rfl
  | some name => cases name <;> rfl

/-- The two loops. -/
theorem parse_tagList (items : List TagItem) (args : ParsedTags) :
    CompArgs.parse 0 (tagList env items) (args.compArgs env.bits) =
      (items.foldl (fun args item => args.set env.numbers item.tiTag item.tiData) args).compArgs
        env.bits := by
  induction items generalizing args with
  | nil => rfl
  | cons item rest ih =>
      calc
        CompArgs.parse 0 (tagList env (item :: rest)) (args.compArgs env.bits) =
            CompArgs.parse 0 (tagList env rest)
              ((args.set env.numbers item.tiTag item.tiData).compArgs env.bits) :=
          parse_item item (tagList env rest)
        _ = _ := ih _

theorem cardCall_args {destination : BitMap} (hdestination : call.destination = some destination)
    (items : List TagItem) :
    (cardCall env call items).args env.pipeline.iGraphics =
      ((lastValues env.numbers items).withDefaults env.iGraphics call.source
        destination).compArgs env.bits := by
  have hempty : ({} : ParsedTags).compArgs env.bits = {} := by
    simp [ParsedTags.compArgs]
  have hparse := @parse_tagList env items {}
  rw [foldl_set, hempty] at hparse
  unfold CompositeCall.args ParsedTags.withDefaults cardCall
  rw [hparse, hdestination]
  cases hgraphics : env.iGraphics with
  | false => simp [HookEnv.pipeline, hgraphics]
  | true =>
      cases hsource : call.source <;> simp [HookEnv.pipeline, hgraphics] <;> rfl

/-- The hook of the card and the other one end alike: with the same record, and with the code for
success exactly when the hardware has done it. -/
def SameHook (env : HookEnv) (call : HookCall) (card : Composited × CardState)
    (ended : Option (UInt32 × HookState)) : Prop :=
  ∃ result st', ended = some (result, st') ∧ card.2.gs = st'.chip.map Compositor.gs ∧
    result = if card.1.hardware then env.errorCode .success else env.original call

theorem callOriginal_card {card : CardState} (hcard : card.gs = st.chip.map Compositor.gs) :
    SameHook env call (⟨false, none⟩, card) (callOriginal env call st) :=
  ⟨_, _, rfl, hcard, rfl⟩

/-- From the check of the tags on. -/
theorem forwardOrAttempt_card {card : CardState} (hchip : st.chip = some s)
    (hcard : card.gs = some s.gs) (flush : GpuAnswer) {called : CompositeCall}
    (hoperator : called.operator = call.operator) (hsource : called.source = call.source)
    (hargs : called.args env.pipeline.iGraphics = args.compArgs env.bits) :
    SameHook env call
      (compositeOnBoard env.address env.pipeline s.gs called
        (outcome env replies flush (request env call args) s) card)
      (forwardOrAttempt env replies s call args st) := by
  have hcard' : card.gs = st.chip.map Compositor.gs := by rw [hcard, hchip]; rfl
  unfold compositeOnBoard forwardOrAttempt attemptHardware
  rw [hargs, hoperator, hsource]
  have hformat : (sourceData env call.source).2.2 = call.source.format env.pipeline.iGraphics :=
    srcFormat_eq env call args
  rw [hformat]
  by_cases hunsupported : (args.compArgs env.bits).hasVertexArray = true ∨
      (args.compArgs env.bits).hasAlphaMask = true
  · have hunsupported' : args.hasVertexArray = true ∨ args.hasAlphaMask = true := hunsupported
    rw [if_pos hunsupported, if_pos hunsupported']
    exact callOriginal_card hcard'
  have hsupported : ¬ (args.hasVertexArray = true ∨ args.hasAlphaMask = true) := hunsupported
  rw [if_neg hunsupported, if_neg hsupported]
  by_cases hdouble : s.gs.doubleBuffer = true
  · rw [if_pos hdouble, if_pos hdouble]
    exact callOriginal_card hcard'
  rw [if_neg hdouble, if_neg hdouble]
  by_cases hbpp : chipFormatBpp (call.source.format env.pipeline.iGraphics) ≠ 4
  · rw [if_pos hbpp, if_pos hbpp]
    exact callOriginal_card hcard'
  rw [if_neg hbpp, if_neg hbpp]
  obtain ⟨hresult, hgs⟩ := @chipVirglComposite_card env replies call args s flush card
  let composed := chipVirglComposite env.bits env.objects env.data replies (request env call args) s
  let st' : HookState := { st with
    chip := some composed.2
    composites := request env call args :: st.composites }
  change SameHook env call
    (⟨(Card.chipVirglComposite env.address env.pipeline s.gs call.operator call.source
        (args.compArgs env.bits) (outcome env replies flush (request env call args) s)
          card).1.result == .success, _⟩, _) (finish env call composed.1 st')
  rw [hresult]
  -- after a success the original method is called too, and its result dropped
  by_cases hok : composed.1 = .success
  · have hrun : finish env call composed.1 st' =
        some (env.errorCode composed.1, { st' with originals := call :: st'.originals }) := by
      unfold finish
      rw [if_neg (not_not.mpr hok)]
      rfl
    refine ⟨_, _, hrun, congrArg some hgs, ?_⟩
    change env.errorCode composed.1 = if (composed.1 == .success) = true then _ else _
    rw [hok]
    rfl
  · have hrun : finish env call composed.1 st' = callOriginal env call st' := by
      unfold finish
      rw [if_pos hok]
    refine ⟨_, _, hrun, congrArg some hgs, ?_⟩
    change env.original call = if (composed.1 == .success) = true then _ else _
    rw [beq_eq_false_iff_ne.mpr hok]
    rfl

/-- For every list of tags that ends, and all answers: there is a way in which the streams of the
card come out, with which its hook ends like the one that reads the tags in memory. -/
theorem hookCompositeTagList_card (env : HookEnv) (replies : CompositeReplies) (call : HookCall)
    (st : HookState) {items : List TagItem} (hitems : Flattens env.load call.tags items) :
    ∃ n, ∀ fuel ≥ n, ∃ outcomes : CompositeEnv, ∀ card : CardState,
      card.gs = st.chip.map Compositor.gs →
        SameHook env call
          (Card.hookCompositeTagList env.address env.pipeline (cardCall env call items) outcomes
            card)
          (hookCompositeTagList env replies fuel call st) := by
  obtain ⟨n, hn⟩ := @parseTags_eq env.numbers env.load items call.tags hitems {}
  refine ⟨n, fun fuel hfuel => ?_⟩
  have hparse := hn fuel hfuel
  rw [foldl_set] at hparse
  cases hchip : st.chip with
  | none =>
      refine ⟨.working, fun card hcard => ?_⟩
      have hcard' : card.gs = none := hcard
      rw [hook_without fuel (Or.inl hchip)]
      simp only [Card.hookCompositeTagList, hcard']
      exact callOriginal_card (hcard'.trans (congrArg (Option.map Compositor.gs) hchip).symm)
  | some s =>
      cases hdestination : call.destination with
      | none =>
          refine ⟨.working, fun card hcard => ?_⟩
          have hcard' : card.gs = some s.gs := hcard
          rw [hook_without fuel (Or.inr hdestination)]
          simp only [Card.hookCompositeTagList, cardCall, hcard', hdestination]
          exact callOriginal_card (hcard'.trans (congrArg (Option.map Compositor.gs) hchip).symm)
      | some destination =>
          let args := (lastValues env.numbers items).withDefaults env.iGraphics call.source
            destination
          refine ⟨outcome env replies .done (request env call args) s, fun card hcard => ?_⟩
          have hcard' : card.gs = some s.gs := hcard
          have hleft : SameHook env call (⟨false, none⟩, card) (callOriginal env call st) :=
            callOriginal_card (hcard'.trans (congrArg (Option.map Compositor.gs) hchip).symm)
          have hdestination' : (cardCall env call items).destination = some destination :=
            hdestination
          rw [hook_parsed fuel hchip hdestination hparse]
          simp only [Card.hookCompositeTagList, hcard', hdestination']
          by_cases hours : s.gs.virgl2dReady = true ∧
              s.gs.OnBoard env.address destination.planes0
          · have hinside : ¬ ¬ IsOurs env s destination := not_not.mpr hours.2
            rw [if_pos hours, if_neg (by simp [hours.1]), if_neg hinside]
            exact forwardOrAttempt_card hchip hcard' .done rfl rfl
              (cardCall_args hdestination items)
          · rw [if_neg hours]
            by_cases hready : s.gs.virgl2dReady = false
            · rw [if_pos hready]
              exact hleft
            · have hother : ¬ IsOurs env s destination := fun h =>
                hours ⟨Bool.not_eq_false _ ▸ hready, h⟩
              rw [if_neg hready, if_pos hother]
              exact hleft

end Hook

end VirtIOGPU.Compositing
