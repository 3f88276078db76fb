import VirtIOGPU.Commands.Timeout

/-!
# Who owns the DMA buffers

A wrapper reuses the buffers of its queue for every command, so the driver owns them
only while no request that points into them is outstanding.  A wait that runs out
releases the lock although the device still holds the request, and the next command
is written over it: `buffer_reused`.  `buffers_owned` shows that nothing else goes
wrong: in a run in which every call returns after its request was consumed, no buffer is
written while a request points into it.

## Strategy

While the condition is kept, at most one request is outstanding: that of the call under way
(`OwnerInv.own`).  Before this call adds its request there is none (`outstanding_eq_nil`), and the
buffers are written before it adds it.

```text
step                   outstanding                   the buffers
the fill               none                          written, nobody points into them
AddBuf                 that of the call              not written
the wait, the drain    that of the call, or none     not written
the return             none, if nothing is           not written
                       abandoned
```
-/

namespace VirtIOGPU

open Lib

/-- A descriptor of the request, as the device reads it, points into the buffer. -/
def PointsInto (vq : Virtqueue) (r : Request) (buffer : DmaBuffer) : Prop :=
  ∃ b ∈ deviceChain vq r.head, buffer.phys.toNat ≤ b.addr.toNat ∧
    b.addr.toNat < buffer.phys.toNat + buffer.size.toNat

/-- The buffer that the next step starts to overwrite. -/
def Pc.overwritten : Pc → Option DmaBuffer
  | .fill (buffer :: _) => some buffer
  | _ => none

theorem Pc.added_of_overwritten {pc : Pc} {buffer : DmaBuffer}
    (h : pc.overwritten = some buffer) : pc.added = false := by
  cases pc <;> simp_all [Pc.overwritten, Pc.added]

/-- A call returns only when its own request is no longer outstanding. -/
def NothingAbandoned (s : ClientState) : ClientAction → Prop
  | .advance _ => ∀ tx ∈ s.owner, tx.pc.returned.isSome →
      ∀ r ∈ s.queue.outstanding, tx.serial ≠ some r.serial
  | _ => True

/-- When the task starts to overwrite a buffer, no outstanding request points into it. -/
def BufferFree (s : ClientState) : ClientAction → Prop
  | .advance _ => ∀ tx ∈ s.owner, ∀ buffer ∈ tx.pc.overwritten,
      ∀ r ∈ s.queue.outstanding, ¬ PointsInto s.queue.vq r buffer
  | _ => True

instance (vq : Virtqueue) (r : Request) (buffer : DmaBuffer) :
    Decidable (PointsInto vq r buffer) :=
  inferInstanceAs (Decidable (∃ b ∈ deviceChain vq r.head, buffer.phys.toNat ≤ b.addr.toNat ∧
    b.addr.toNat < buffer.phys.toNat + buffer.size.toNat))

instance (s : ClientState) : DecidablePred (NothingAbandoned s)
  | .advance _ => inferInstanceAs (Decidable (∀ tx ∈ s.owner, tx.pc.returned.isSome →
      ∀ r ∈ s.queue.outstanding, tx.serial ≠ some r.serial))
  | .call _ _ | .fetch | .complete _ _ | .otherQueue | .interrupt => isTrue trivial

instance (s : ClientState) : DecidablePred (BufferFree s)
  | .advance _ => inferInstanceAs (Decidable (∀ tx ∈ s.owner, ∀ buffer ∈ tx.pc.overwritten,
      ∀ r ∈ s.queue.outstanding, ¬ PointsInto s.queue.vq r buffer))
  | .call _ _ | .fetch | .complete _ _ | .otherQueue | .interrupt => isTrue trivial

/-- Every outstanding request is the one that the task under the lock added. -/
structure OwnerInv (s : ClientState) : Prop where
  queue : ∃ x, QueueInv s.queue x
  own : ∀ r ∈ s.queue.outstanding, ∃ tx ∈ s.owner, tx.serial = some r.serial
  before : ∀ tx ∈ s.owner, tx.pc.added = false → tx.serial = none

namespace OwnerInv

variable {s t : ClientState} {tx tx' : Transaction}

/-- Before the task adds its request nothing is outstanding. -/
theorem outstanding_eq_nil (inv : OwnerInv s) (howner : s.owner = some tx)
    (hadded : tx.pc.added = false) : s.queue.outstanding = [] := by
  refine List.eq_nil_iff_forall_not_mem.mpr fun r hr => ?_
  obtain ⟨other, hother, hserial⟩ := inv.own r hr
  obtain rfl : tx = other := Option.some.inj (howner.symm.trans hother)
  rw [inv.before tx howner hadded] at hserial
  simp at hserial

/-- While nobody holds the lock nothing is outstanding. -/
theorem outstanding_eq_nil_of_none (inv : OwnerInv s) (howner : s.owner = none) :
    s.queue.outstanding = [] := by
  refine List.eq_nil_iff_forall_not_mem.mpr fun r hr => ?_
  obtain ⟨tx, htx, -⟩ := inv.own r hr
  simp [howner] at htx

theorem of_nil (hqueue : ∃ x, QueueInv t.queue x) (hnil : t.queue.outstanding = [])
    (hbefore : ∀ tx ∈ t.owner, tx.pc.added = false → tx.serial = none) : OwnerInv t where
  queue := hqueue
  own r hr := by simp [hnil] at hr
  before := hbefore

/-- The transaction goes on with the same request. -/
theorem of_owner (inv : OwnerInv s) (howner : s.owner = some tx)
    (hqueue : ∃ x, QueueInv t.queue x)
    (houtstanding : ∀ r ∈ t.queue.outstanding, r ∈ s.queue.outstanding)
    (howner' : t.owner = some tx') (hserial : tx'.serial = tx.serial)
    (hadded : tx'.pc.added = tx.pc.added) : OwnerInv t where
  queue := hqueue
  own r hr := by
    obtain ⟨other, hother, hown⟩ := inv.own r (houtstanding r hr)
    obtain rfl : tx = other := Option.some.inj (howner.symm.trans hother)
    exact ⟨tx', howner', hserial.trans hown⟩
  before other hother hplace := by
    obtain rfl : tx' = other := Option.some.inj (howner'.symm.trans hother)
    rw [hserial]
    exact inv.before tx howner (hadded ▸ hplace)

/-- The device or the interrupt handler acts. -/
theorem device (inv : OwnerInv s) (hqueue : ∃ x, QueueInv t.queue x) (howner : t.owner = s.owner)
    (houtstanding : t.queue.outstanding = s.queue.outstanding) : OwnerInv t where
  queue := hqueue
  own := by
    rw [houtstanding, howner]
    exact inv.own
  before := by
    rw [howner]
    exact inv.before

theorem addBuf (inv : OwnerInv s) (howner : s.owner = some tx) (hadded : tx.pc.added = false)
    (env : ItblEnv) : OwnerInv (s.addBuf tx env) := by
  have hnil := inv.outstanding_eq_nil howner hadded
  obtain ⟨x, hx⟩ := inv.queue
  obtain ⟨-, y, -, hy⟩ := hx.add (tx.cmd.sg s.dma) tx.task env
  rcases hx.desc.add_cases (tx.cmd.sg s.dma) tx.task env with ⟨hrc, hsame⟩ |
    ⟨r, vq, hrc, -, -, hserial, -, -, -, -, hadd⟩
  · -- the call failed and the task is about to return 0
    refine of_nil ⟨y, hy⟩ ?_ ?_
    · simpa only [ClientState.addBuf, hsame] using hnil
    · intro other hother hplace
      simp only [ClientState.addBuf, hrc, if_false, Option.mem_def, Option.some.injEq] at hother
      subst hother
      simp [Pc.added] at hplace
  · have howner' : (s.addBuf tx env).owner =
        some { tx with serial := some s.queue.added, pc := .enterWait } := by
      simp only [ClientState.addBuf, hrc, if_true]
    refine ⟨⟨y, hy⟩, ?_, ?_⟩
    · intro other hother
      simp only [ClientState.addBuf, hadd, hnil, List.nil_append, List.mem_singleton] at hother
      subst hother
      exact ⟨_, howner', by rw [hserial]⟩
    · intro other hother hplace
      obtain rfl := Option.some.inj (howner'.symm.trans hother)
      simp [Pc.added] at hplace

/-- The task returns, and its request has been consumed. -/
theorem finish (inv : OwnerInv s) (howner : s.owner = some tx) {count : UInt32}
    (hpc : tx.pc = .finish count) {env : ExecEnv} (hkept : NothingAbandoned s (.advance env)) :
    OwnerInv { s with owner := none } := by
  refine of_nil inv.queue ?_ (by simp)
  refine List.eq_nil_iff_forall_not_mem.mpr fun r hr => ?_
  obtain ⟨other, hother, hserial⟩ := inv.own r hr
  obtain rfl : tx = other := Option.some.inj (howner.symm.trans hother)
  exact hkept tx howner (by simp [hpc, Pc.returned]) r hr hserial

theorem advance (inv : OwnerInv s) (howner : s.owner = some tx) {env : ExecEnv}
    (hkept : NothingAbandoned s (.advance env)) (hstep : s.advance tx env = some t) :
    OwnerInv t := by
  rcases ClientState.advance_cases hstep with ⟨tx', moves, -⟩ | ⟨tx', moves, -⟩ |
    ⟨next, rfl, -, hadded, -⟩ | ⟨next, rfl, hplace, -, hadded, -⟩ | ⟨hpc, rfl⟩ | ⟨count, hpc, rfl⟩
  · exact inv.of_owner howner (moves.queue ▸ inv.queue) (fun r hr => moves.queue ▸ hr) moves.owner
      moves.serial moves.added
  · exact inv.of_owner howner (moves.queue ▸ inv.queue) (fun r hr => moves.queue ▸ hr) moves.owner
      moves.serial moves.added
  · exact inv.of_owner howner (ClientState.queue_get inv.queue)
      (fun r hr => Queue.mem_get_outstanding hr) rfl rfl (hadded _)
  · exact inv.of_owner howner (ClientState.queue_get inv.queue)
      (fun r hr => Queue.mem_get_outstanding hr) rfl rfl ((hadded _).trans hplace.symm)
  · exact inv.addBuf howner (by rw [hpc]; rfl) env.itbl
  · exact inv.finish howner hpc hkept

theorem call (inv : OwnerInv s) {task : UInt32} {cmd : Command}
    (hstep : s.call task cmd = some t) : OwnerInv t := by
  obtain ⟨howner, -, rfl⟩ := ClientState.call_cases hstep
  refine of_nil inv.queue (inv.outstanding_eq_nil_of_none howner) fun tx htx _ => ?_
  obtain rfl := Option.some.inj htx
  rfl

theorem step (inv : OwnerInv s) {action : ClientAction} (hkept : NothingAbandoned s action)
    (hstep : s.step action = some t) : OwnerInv t := by
  rcases ClientState.step_cases inv.queue hstep with ⟨task, cmd, rfl, hcall⟩ |
    ⟨env, tx, rfl, howner, hadvance⟩ | ⟨howner, hqueue, houtstanding, -⟩
  · exact inv.call hcall
  · exact inv.advance howner hkept hadvance
  · exact inv.device hqueue howner houtstanding

end OwnerInv

/-! ## Every run -/

/-- In every run of either queue in which every call returns after its request was consumed,
no buffer is overwritten while an outstanding request points into it. -/
theorem buffers_owned {queueSize : UInt32} (hsize : ValidQueueSize queueSize)
    (modern useEventIdx useIndirect irqInstalled : Bool) (channel : Channel) (dma : DmaBuffers)
    (actions : List ClientAction)
    (hwithin : Machine.Within ClientState.step NothingAbandoned (ClientState.initial channel dma
      irqInstalled (Queue.initial queueSize modern useEventIdx useIndirect)) actions) :
    Machine.Within ClientState.step BufferFree (ClientState.initial channel dma irqInstalled
      (Queue.initial queueSize modern useEventIdx useIndirect)) actions := by
  have hinitial : OwnerInv (ClientState.initial channel dma irqInstalled
      (Queue.initial queueSize modern useEventIdx useIndirect)) :=
    OwnerInv.of_nil ⟨_, QueueInv.initial hsize modern useEventIdx useIndirect⟩ rfl
      (by simp [ClientState.initial])
  refine Machine.within_imp (I := OwnerInv) ?_ (fun s action t inv => inv.step) hinitial hwithin
  intro s action inv _
  cases action with
  | advance env =>
      intro tx howner buffer hbuffer r hr
      rw [inv.outstanding_eq_nil howner (Pc.added_of_overwritten hbuffer)] at hr
      simp at hr
  | _ => trivial

/-- Two commands, each answered while its task polls. -/
theorem buffers_owned_two :
    Machine.Within ClientState.step BufferFree
      (ClientState.initial .ctrlq sampleDma false (Queue.initial 4 true false false))
      (.call 100 (.doIo 24 24) :: List.replicate 4 (.advance noSignal) ++
        [.fetch, .complete 0 24] ++ List.replicate 3 (.advance noSignal) ++
        .call 200 (.submit3D 64) :: List.replicate 5 (.advance noSignal)) :=
  buffers_owned validQueueSize_four true false false false .ctrlq sampleDma _ (by decide)

/-- The wait for the first command runs out, and the second is written over it. -/
theorem buffer_reused :
    ¬ Machine.Within ClientState.step BufferFree sampleClient
      (unansweredCall 100 (.doIo 24 24) noSignal sampleDma ++
        [.call 200 (.doIo 24 24), .advance noSignal]) := by
  intro hwithin
  have hnext := Machine.within_append_right hwithin sampleClient_unanswered
  exact absurd hnext (by decide)

end VirtIOGPU
