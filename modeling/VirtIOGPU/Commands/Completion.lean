import VirtIOGPU.Commands.Matching

/-!
# Completions that are thrown away

`VirtQueue_GetBuf` removes the entry that it returns.  The wait loop keeps the entry with
the caller's own cookie, but the drain after a timeout looks at no cookie: an entry that
the device adds between the last look of the loop and the end of the drain is lost, and
the call returns 0 for a request that was carried out (`own_completion_drained`).

`own_completion_kept` shows that this is the only way to lose one.  From the moment in
which the request is added, it is outstanding, or the wait loop has found its entry and
the task is on its way to return the length of it (`Transaction.Found`).

## Strategy

```text
step                      the request of the call
AddBuf                    becomes outstanding                          Waits
a look in the wait loop   stays so, or its entry is found              Waits or Found
a look in the drain       stays so, since the drain spares it          Waits
retract, check, finish    the locals stay, and are returned            Waits or Found
```

The condition is on the state before a look of the drain; `getBuf_consumes` says that the look
takes nothing but the entry that the used ring names.  The drain comes after a timeout alone, so
what has been found is never followed by one.
-/

namespace VirtIOGPU

open Lib

/-! ## Restrictions and properties of a step -/

/-- A call of `VirtQueue_GetBuf` in the drain does not take the entry of the task's own request. -/
def DrainSpares (s : ClientState) : ClientAction → Prop
  | .advance _ => ∀ tx ∈ s.owner, tx.pc.draining = true → ∀ entry ∈ usedEntry s.queue.vq,
      ∀ r ∈ s.queue.outstanding, tx.serial = some r.serial → entry.id ≠ r.head.toUInt32
  | _ => True

/-- A call that returns has not consumed the entry of its own request, or it returns the length
that the device reported for it. -/
def OwnKept (s : ClientState) : ClientAction → Prop
  | .advance _ => ∀ tx ∈ s.owner, ∀ count ∈ tx.pc.returned, tx.serial.isSome = true →
      (∃ r ∈ s.queue.outstanding, tx.serial = some r.serial) ∨ Answered s tx count
  | _ => True

instance (s : ClientState) (tx : Transaction) : Decidable (∀ entry ∈ usedEntry s.queue.vq,
    ∀ r ∈ s.queue.outstanding, tx.serial = some r.serial → entry.id ≠ r.head.toUInt32) :=
  Option.decidableForallMem _

instance (s : ClientState) : DecidablePred (DrainSpares s)
  | .advance _ => inferInstanceAs (Decidable (∀ tx ∈ s.owner, tx.pc.draining = true →
      ∀ entry ∈ usedEntry s.queue.vq, ∀ r ∈ s.queue.outstanding,
        tx.serial = some r.serial → entry.id ≠ r.head.toUInt32))
  | .call _ _ | .fetch | .complete _ _ | .otherQueue | .interrupt => isTrue trivial

instance (s : ClientState) (tx : Transaction) :
    Decidable (∀ count ∈ tx.pc.returned, tx.serial.isSome = true →
      (∃ r ∈ s.queue.outstanding, tx.serial = some r.serial) ∨ Answered s tx count) :=
  Option.decidableForallMem _

instance (s : ClientState) : DecidablePred (OwnKept s)
  | .advance _ => inferInstanceAs (Decidable (∀ tx ∈ s.owner, ∀ count ∈ tx.pc.returned,
      tx.serial.isSome = true →
        (∃ r ∈ s.queue.outstanding, tx.serial = some r.serial) ∨ Answered s tx count))
  | .call _ _ | .fetch | .complete _ _ | .otherQueue | .interrupt => isTrue trivial

/-! ## The request of the call -/

/-- The places from the end of the wait loop to a return of `count`. -/
def Pc.settled (count : UInt32) : Pc → Bool
  | .retractMask | .retractTask | .check => true
  | .finish returned => decide (returned = count)
  | _ => false

/-- The wait loop has found the entry of the task's own request. -/
structure Transaction.Found (s : ClientState) (tx : Transaction) : Prop where
  cookie : tx.gotCookie = tx.task
  answered : Answered s tx tx.bytesWritten
  settled : tx.pc.settled tx.bytesWritten = true

/-- The request that the task added is outstanding and carries its cookie. -/
def Transaction.Waits (s : ClientState) (tx : Transaction) : Prop :=
  ∃ r ∈ s.queue.outstanding, tx.serial = some r.serial ∧ r.cookie = tx.task

structure KeptInv (s : ClientState) : Prop where
  queue : ∃ x, QueueInv s.queue x
  before : ∀ tx, s.owner = some tx → tx.pc.added = false → tx.serial = none
  own : ∀ tx, s.owner = some tx → tx.serial.isSome = true → tx.Waits s ∨ tx.Found s

namespace KeptInv

variable {s t : ClientState} {tx tx' : Transaction}

/-- The invariant, for the one task that holds the lock. -/
theorem of_some (howner : t.owner = some tx) (hqueue : ∃ x, QueueInv t.queue x)
    (hbefore : tx.pc.added = false → tx.serial = none)
    (hown : tx.serial.isSome = true → tx.Waits t ∨ tx.Found t) : KeptInv t := by
  have howner' : ∀ other, t.owner = some other → other = tx := fun other hother =>
    (Option.some.inj (howner.symm.trans hother)).symm
  refine ⟨hqueue, ?_, ?_⟩
  · intro other hother
    rwa [howner' other hother]
  · intro other hother
    rwa [howner' other hother]

theorem of_none (hqueue : ∃ x, QueueInv t.queue x) (howner : t.owner = none) : KeptInv t where
  queue := hqueue
  before tx h := by simp [howner] at h
  own tx h := by simp [howner] at h

/-- Before the request is added there is nothing to keep. -/
theorem of_no_serial (howner : t.owner = some tx) (hqueue : ∃ x, QueueInv t.queue x)
    (hserial : tx.serial = none) : KeptInv t :=
  of_some howner hqueue (fun _ => hserial) (by simp [hserial])

/-! ## The parts of a step -/

/-- The device or the interrupt handler acts. -/
theorem device (inv : KeptInv s) (hqueue : ∃ x, QueueInv t.queue x) (howner : t.owner = s.owner)
    (houtstanding : t.queue.outstanding = s.queue.outstanding)
    (hcompleted : ∀ answer ∈ s.queue.completed, answer ∈ t.queue.completed) : KeptInv t := by
  cases howner' : s.owner with
  | none => exact of_none hqueue (howner.trans howner')
  | some tx =>
      refine of_some (howner.trans howner') hqueue (inv.before tx howner') fun hserial => ?_
      rcases inv.own tx howner' hserial with hwaits | ⟨hcookie, ⟨answer, hanswer, hlen⟩, hsettled⟩
      · left
        rwa [Transaction.Waits, houtstanding]
      · exact Or.inr ⟨hcookie, ⟨answer, hcompleted answer hanswer, hlen⟩, hsettled⟩

/-- A request whose entry is not the next one in the used ring stays outstanding. -/
theorem waits_get (inv : KeptInv s) (hwaits : tx.Waits s)
    (hspared : ∀ entry ∈ usedEntry s.queue.vq, ∀ r ∈ s.queue.outstanding,
      tx.serial = some r.serial → entry.id ≠ r.head.toUInt32) :
    ∃ r ∈ s.queue.get.outstanding, tx.serial = some r.serial ∧ r.cookie = tx.task := by
  obtain ⟨r, hr, hserial, hcookie⟩ := hwaits
  refine ⟨r, ?_, hserial, hcookie⟩
  obtain ⟨x, hx⟩ := inv.queue
  rcases hx.getBuf_consumes with ⟨hentry, -⟩ | ⟨q, hq, len, -, hentry, -, -, honly⟩
  · rwa [Queue.get_of_none hentry]
  · by_contra hgone
    obtain rfl := honly r hr hgone
    exact hspared _ hentry r hr hserial rfl

theorem drainBuf (inv : KeptInv s) (howner : s.owner = some tx) {env : ExecEnv}
    (hspares : DrainSpares s (.advance env)) {next : UInt32 → Pc}
    (hdraining : tx.pc.added = true → tx.pc.draining = true)
    (hnext : ∀ cookie, (next cookie).added = tx.pc.added)
    (hwaits : tx.serial.isSome = true → tx.Waits s) : KeptInv (s.drainBuf tx next) := by
  have hbefore := inv.before tx howner
  refine of_some rfl (ClientState.queue_get inv.queue) ?_ fun hserial => ?_
  · exact fun hplace => hbefore ((hnext _).symm.trans hplace)
  · have hadded : tx.pc.added = true := by
      by_contra hplace
      rw [hbefore (Bool.eq_false_iff.mpr hplace)] at hserial
      exact absurd hserial (by simp)
    exact Or.inl (inv.waits_get (hwaits hserial) (hspares tx howner (hdraining hadded)))

/-- A look of the wait loop: the entry of the task's own request ends the loop. -/
theorem getBuf (inv : KeptInv s) {next : UInt32 → Pc}
    (hend : next tx.task = .retractMask ∨ next tx.task = .check)
    (hnext : ∀ cookie, (next cookie).added = true)
    (hwaits : tx.serial.isSome = true → tx.Waits s) : KeptInv (s.getBuf tx next) := by
  refine of_some rfl (ClientState.queue_get inv.queue) ?_ fun hserial => ?_
  · intro hplace
    exact absurd ((hnext _).symm.trans hplace) (by decide)
  obtain ⟨r, hr, hown, hcookie⟩ := hwaits hserial
  by_cases hkept : r ∈ s.queue.get.outstanding
  · exact Or.inl ⟨r, hkept, hown, hcookie⟩
  · obtain ⟨x, hx⟩ := inv.queue
    rcases hx.getBuf_consumes with ⟨hentry, -⟩ | ⟨q, -, len, hcompleted, -, hgot, hlen, honly⟩
    · rw [Queue.get_of_none hentry] at hkept
      exact absurd hr hkept
    · obtain rfl := honly r hr hkept
      have htask : (virtQueueGetBuf s.queue.vq).cookie = tx.task := hgot.trans hcookie
      refine Or.inr ⟨htask, ⟨(r, len), hcompleted, hown, ?_⟩, ?_⟩
      · simp only [hlen, Option.getD_some]
      · simp only [htask]
        rcases hend with h | h <;> rw [h] <;> rfl

theorem addBuf (inv : KeptInv s) (howner : s.owner = some tx) (hadded : tx.pc.added = false)
    (env : ItblEnv) : KeptInv (s.addBuf tx env) := by
  have hserial := inv.before tx howner hadded
  obtain ⟨x, hx⟩ := inv.queue
  obtain ⟨-, y, -, hy⟩ := hx.add (tx.cmd.sg s.dma) tx.task env
  rcases hx.desc.add_cases (tx.cmd.sg s.dma) tx.task env with ⟨hrc, -⟩ |
    ⟨r, vq, hrc, -, hcookie, hnumber, -, -, -, -, hadd⟩
  · have howner' : (s.addBuf tx env).owner = some { tx with pc := .finish 0 } := by
      simp only [ClientState.addBuf, hrc, if_false]
    exact of_no_serial howner' ⟨y, hy⟩ hserial
  · have howner' : (s.addBuf tx env).owner =
        some { tx with serial := some s.queue.added, pc := .enterWait } := by
      simp only [ClientState.addBuf, hrc, if_true]
    refine of_some howner' ⟨y, hy⟩ (by simp [Pc.added]) fun _ => Or.inl ⟨r, ?_, ?_, hcookie⟩
    · simp only [ClientState.addBuf, hadd]
      exact List.mem_append_right _ (List.mem_cons_self ..)
    · rw [hnumber]

/-- Once the entry is found the task only retracts what it published and returns. -/
theorem found (inv : KeptInv s) (hfound : tx.Found s) {env : ExecEnv}
    (hstep : s.advance tx env = some t) : KeptInv t := by
  obtain ⟨hcookie, hanswered, hsettled⟩ := hfound
  cases hpc : tx.pc with
  | retractMask | retractTask =>
      simp only [ClientState.advance, hpc, Option.some.injEq] at hstep
      subst hstep
      exact of_some rfl inv.queue (by simp [Pc.added]) fun _ => Or.inr ⟨hcookie, hanswered, rfl⟩
  | check =>
      simp only [ClientState.advance, hpc, hcookie, if_true, Option.some.injEq] at hstep
      subst hstep
      exact of_some rfl inv.queue (by simp [Pc.added]) fun _ =>
        Or.inr ⟨rfl, hanswered, decide_eq_true rfl⟩
  | finish count =>
      simp only [ClientState.advance, hpc, Option.some.injEq] at hstep
      subst hstep
      exact of_none inv.queue rfl
  | _ => simp [hpc, Pc.settled] at hsettled

/-! ## Every step -/

theorem advance (inv : KeptInv s) (howner : s.owner = some tx) {env : ExecEnv}
    (hspares : DrainSpares s (.advance env)) (hstep : s.advance tx env = some t) : KeptInv t := by
  by_cases hfound : tx.Found s
  · exact inv.found hfound hstep
  have hwaits : tx.serial.isSome = true → tx.Waits s := fun hserial =>
    (inv.own tx howner hserial).resolve_right hfound
  have hmoves : ∀ tx', s.Moves tx t tx' → KeptInv t := by
    intro tx' moves
    refine of_some moves.owner (moves.queue ▸ inv.queue) ?_ fun hserial => ?_
    · rw [moves.added, moves.serial]
      exact inv.before tx howner
    · rw [moves.serial] at hserial
      obtain ⟨r, hr, hown, hcookie⟩ := hwaits hserial
      exact Or.inl ⟨r, moves.queue ▸ hr, moves.serial.trans hown, hcookie.trans moves.task.symm⟩
  rcases ClientState.advance_cases hstep with ⟨tx', moves, -⟩ | ⟨tx', moves, -⟩ |
    ⟨next, rfl, hdraining, hnext, -⟩ | ⟨next, rfl, -, hend, hnext, -⟩ | ⟨hpc, rfl⟩ |
    ⟨count, -, rfl⟩
  · exact hmoves tx' moves
  · exact hmoves tx' moves
  · exact inv.drainBuf howner hspares hdraining hnext hwaits
  · exact inv.getBuf hend hnext hwaits
  · exact inv.addBuf howner (by rw [hpc]; rfl) env.itbl
  · exact of_none inv.queue rfl

theorem call (inv : KeptInv s) {task : UInt32} {cmd : Command}
    (hstep : s.call task cmd = some t) : KeptInv t := by
  obtain ⟨-, -, rfl⟩ := ClientState.call_cases hstep
  exact of_no_serial rfl inv.queue rfl

theorem step (inv : KeptInv s) {action : ClientAction} (hspares : DrainSpares s action)
    (hstep : s.step action = some t) : KeptInv t := by
  rcases ClientState.step_cases inv.queue hstep with ⟨task, cmd, rfl, hcall⟩ |
    ⟨env, tx, rfl, howner, hadvance⟩ | ⟨howner, hqueue, houtstanding, hcompleted⟩
  · exact inv.call hcall
  · exact inv.advance howner hspares hadvance
  · exact inv.device hqueue howner houtstanding hcompleted

end KeptInv

/-! ## Every run -/

/-- In every run in which the drain never takes the entry of the task's own request, a call
that consumed the entry of its own request returns the length that the device reported. -/
theorem own_completion_kept {queueSize : UInt32} (hsize : ValidQueueSize queueSize)
    (modern useEventIdx useIndirect irqInstalled : Bool) (channel : Channel) (dma : DmaBuffers)
    (actions : List ClientAction)
    (hwithin : Machine.Within ClientState.step DrainSpares (ClientState.initial channel dma
      irqInstalled (Queue.initial queueSize modern useEventIdx useIndirect)) actions) :
    Machine.Within ClientState.step OwnKept (ClientState.initial channel dma irqInstalled
      (Queue.initial queueSize modern useEventIdx useIndirect)) actions := by
  have hinitial : KeptInv (ClientState.initial channel dma irqInstalled
      (Queue.initial queueSize modern useEventIdx useIndirect)) :=
    KeptInv.of_none ⟨_, QueueInv.initial hsize modern useEventIdx useIndirect⟩ rfl
  refine Machine.within_imp (I := KeptInv) ?_ (fun s action t inv => inv.step) hinitial hwithin
  intro s action inv _
  cases action with
  | advance env =>
      intro tx howner count hreturned hserial
      rcases inv.own tx howner hserial with ⟨r, hr, hown, -⟩ | ⟨-, hanswered, hsettled⟩
      · exact Or.inl ⟨r, hr, hown⟩
      · rw [Pc.returned_eq_some.mp hreturned] at hsettled
        exact Or.inr (of_decide_eq_true hsettled ▸ hanswered)
  | _ => trivial

/-- One command, answered while the task polls. -/
theorem own_completion_kept_prompt :
    Machine.Within ClientState.step OwnKept
      (ClientState.initial .ctrlq sampleDma false (Queue.initial 4 true false false))
      (.call 100 (.doIo 24 24) :: List.replicate 4 (.advance noSignal) ++
        [.fetch, .complete 0 24] ++ List.replicate 3 (.advance noSignal)) :=
  own_completion_kept validQueueSize_four true false false false .ctrlq sampleDma _ (by decide)

/-- The device answers right after the last poll: the drain takes the entry, and the call
returns 0. -/
theorem own_completion_drained :
    ¬ Machine.Within ClientState.step OwnKept sampleClient
      (exhaustedCall 100 (.doIo 24 24) noSignal sampleDma ++
        ([.fetch, .complete 0 24] ++ List.replicate 5 (.advance noSignal))) := by
  have hexhausted :
      Machine.run ClientState.step sampleClient
          (exhaustedCall 100 (.doIo 24 24) noSignal sampleDma) =
        some
          { sampleClient with
            queue := sampleClient.queue.add ((Command.doIo 24 24).sg sampleDma) 100 noSignal.itbl
            owner := some ⟨100, .doIo 24 24, .poll 0, 0, 0, 0, some sampleClient.queue.added⟩ } :=
    exhaustedCall_run rfl (by decide) rfl rfl (Or.inl rfl) (by decide) (by decide)
  intro hwithin
  have hlate := Machine.within_append_right hwithin hexhausted
  exact absurd hlate (by decide)

end VirtIOGPU
