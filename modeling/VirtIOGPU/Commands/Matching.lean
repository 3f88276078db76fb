import VirtIOGPU.Commands.Timeout

/-!
# Replies and requests

The cookie of a request is the address of the calling task, so a late answer to a
request that the task gave up on looks like the answer to its next request.
`reply_matched` shows that this is the only way to go wrong: as long as no task adds a
request while an earlier one of its own is outstanding, every call that returns a byte
count returns the one that the device reported for the request of that call.
`stale_reply_accepted` is a run in which it does go wrong.

## Strategy

`MatchInv` says what the cookie of the task stands for.  From `VirtQueue_AddBuf` on, an outstanding
request with this cookie is the one of the call (`own`); so when the wait loop finds the cookie,
the length belongs to that request (`got`), and a count that is returned is this length.

```text
step                   own                               got
AddBuf                 established, if `FreshCookie`     nothing has been found yet
a look that finds it   one request fewer                 established, by `getBuf_cases`
any other look         requests only leave               kept
steps of the device    kept, requests stay               kept, completions only grow
```
-/

namespace VirtIOGPU

open Lib

/-- The device completed the request of this transaction with length `len`. -/
def Answered (s : ClientState) (tx : Transaction) (len : UInt32) : Prop :=
  ∃ answer ∈ s.queue.completed, tx.serial = some answer.1.serial ∧ answer.2 = len

/-- What ties the transaction under way to the queue. -/
structure MatchInv (s : ClientState) : Prop where
  queue : ∃ x, QueueInv s.queue x
  task_ne : ∀ tx, s.owner = some tx → tx.task ≠ 0
  /-- The task's cookie stands for the request of this call only. -/
  own : ∀ tx, s.owner = some tx → tx.pc.added = true → ∀ r ∈ s.queue.outstanding,
    r.cookie = tx.task → tx.serial = some r.serial
  got : ∀ tx, s.owner = some tx → tx.gotCookie = tx.task → Answered s tx tx.bytesWritten
  before : ∀ tx, s.owner = some tx → tx.pc.added = false → tx.gotCookie = 0
  count : ∀ tx count, s.owner = some tx → tx.pc = .finish count → count ≠ 0 →
    Answered s tx count

/-! ## Restrictions and properties of a step -/

/-- Whenever the task that holds the lock adds a request, no outstanding request carries its
cookie. -/
def FreshCookie (s : ClientState) : ClientAction → Prop
  | .advance _ => ∀ tx ∈ s.owner, tx.pc = .fill [] →
      ∀ r ∈ s.queue.outstanding, r.cookie ≠ tx.task
  | _ => True

/-- Whenever a call returns a non-zero byte count, the device has completed the request that
the call added, with that length. -/
def ReplyMatched (s : ClientState) : ClientAction → Prop
  | .advance _ => ∀ tx ∈ s.owner, ∀ count ∈ tx.pc.returned, count ≠ 0 → Answered s tx count
  | _ => True

instance (s : ClientState) (tx : Transaction) (len : UInt32) : Decidable (Answered s tx len) :=
  inferInstanceAs (Decidable (∃ answer ∈ s.queue.completed,
    tx.serial = some answer.1.serial ∧ answer.2 = len))

instance (s : ClientState) : DecidablePred (FreshCookie s)
  | .advance _ => inferInstanceAs (Decidable (∀ tx ∈ s.owner, tx.pc = .fill [] →
      ∀ r ∈ s.queue.outstanding, r.cookie ≠ tx.task))
  | .call _ _ | .fetch | .complete _ _ | .otherQueue | .interrupt => isTrue trivial

instance (s : ClientState) (tx : Transaction) :
    Decidable (∀ count ∈ tx.pc.returned, count ≠ 0 → Answered s tx count) :=
  Option.decidableForallMem _

instance (s : ClientState) : DecidablePred (ReplyMatched s)
  | .advance _ => inferInstanceAs (Decidable (∀ tx ∈ s.owner, ∀ count ∈ tx.pc.returned,
      count ≠ 0 → Answered s tx count))
  | .call _ _ | .fetch | .complete _ _ | .otherQueue | .interrupt => isTrue trivial

namespace MatchInv

variable {s t : ClientState} {tx tx' : Transaction}

/-- The invariant, for the one task that holds the lock. -/
theorem of_some (howner : t.owner = some tx) (hqueue : ∃ x, QueueInv t.queue x)
    (htask : tx.task ≠ 0)
    (hown : tx.pc.added = true → ∀ r ∈ t.queue.outstanding, r.cookie = tx.task →
      tx.serial = some r.serial)
    (hgot : tx.gotCookie = tx.task → Answered t tx tx.bytesWritten)
    (hbefore : tx.pc.added = false → tx.gotCookie = 0)
    (hcount : ∀ count, tx.pc = .finish count → count ≠ 0 → Answered t tx count) : MatchInv t := by
  have howner' : ∀ other, t.owner = some other → other = tx := fun other hother =>
    (Option.some.inj (howner.symm.trans hother)).symm
  refine ⟨hqueue, ?_, ?_, ?_, ?_, ?_⟩
  · intro other hother
    rwa [howner' other hother]
  · intro other hother
    rwa [howner' other hother]
  · intro other hother
    rwa [howner' other hother]
  · intro other hother
    rwa [howner' other hother]
  · intro other count hother
    rw [howner' other hother]
    exact hcount count

/-- Nobody holds the lock. -/
theorem of_none (hqueue : ∃ x, QueueInv t.queue x) (howner : t.owner = none) : MatchInv t where
  queue := hqueue
  task_ne tx h := by simp [howner] at h
  own tx h := by simp [howner] at h
  got tx h := by simp [howner] at h
  before tx h := by simp [howner] at h
  count tx _ h := by simp [howner] at h

/-- What has to be checked when the transaction goes on. -/
theorem of_owner (inv : MatchInv s) (howner : s.owner = some tx)
    (hqueue : ∃ x, QueueInv t.queue x)
    (houtstanding : ∀ r ∈ t.queue.outstanding, r ∈ s.queue.outstanding)
    (howner' : t.owner = some tx') (htask : tx'.task = tx.task) (hserial : tx'.serial = tx.serial)
    (hadded : tx'.pc.added = tx.pc.added) (hbefore : tx.pc.added = false → tx'.gotCookie = 0)
    (hgot : tx'.gotCookie = tx.task → Answered t tx' tx'.bytesWritten)
    (hcount : ∀ count, tx'.pc = .finish count → count ≠ 0 → Answered t tx' count) :
    MatchInv t := by
  refine of_some howner' hqueue (htask ▸ inv.task_ne tx howner) ?_ (htask ▸ hgot)
    (hadded ▸ hbefore) hcount
  intro hplace r hr
  rw [htask, hserial]
  exact inv.own tx howner (hadded ▸ hplace) r (houtstanding r hr)

/-! ## Steps of the queue -/

/-- The device acts. -/
theorem device (inv : MatchInv s) (hqueue : ∃ x, QueueInv t.queue x) (howner : t.owner = s.owner)
    (houtstanding : t.queue.outstanding = s.queue.outstanding)
    (hcompleted : ∀ answer ∈ s.queue.completed, answer ∈ t.queue.completed) : MatchInv t := by
  cases howner' : s.owner with
  | none => exact of_none hqueue (howner.trans howner')
  | some tx =>
      have hanswered : ∀ len, Answered s tx len → Answered t tx len := by
        rintro len ⟨answer, hanswer, hrest⟩
        exact ⟨answer, hcompleted answer hanswer, hrest⟩
      refine inv.of_owner howner' hqueue (fun r hr => houtstanding ▸ hr) (howner.trans howner') rfl
        rfl rfl (inv.before tx howner') (fun h => hanswered _ (inv.got tx howner' h)) ?_
      exact fun count hpc hne => hanswered _ (inv.count tx count howner' hpc hne)

theorem getBuf (inv : MatchInv s) (howner : s.owner = some tx) (hadded : tx.pc.added = true)
    {next : UInt32 → Pc} (hnext : ∀ cookie, (next cookie).added = true)
    (hfinish : ∀ cookie count, next cookie ≠ .finish count) : MatchInv (s.getBuf tx next) := by
  refine inv.of_owner howner (ClientState.queue_get inv.queue)
    (fun r hr => Queue.mem_get_outstanding hr) rfl rfl rfl
    ((hnext _).trans hadded.symm) (by simp [hadded]) ?_ ?_
  · -- the entry names an outstanding request with this task's cookie, which is its own
    intro hgot
    obtain ⟨x, hx⟩ := inv.queue
    rcases hx.getBuf_cases with ⟨hcookie, -⟩ | ⟨r, hr, len, hcompleted, hcookie, hlen⟩
    · rw [hcookie] at hgot
      exact absurd hgot.symm (inv.task_ne tx howner)
    · refine ⟨(r, len), hcompleted, ?_, ?_⟩
      · exact inv.own tx howner hadded r hr (hcookie.symm.trans hgot)
      · rw [hlen]
        rfl
  · intro count hpc
    exact absurd hpc (hfinish _ count)

theorem drainBuf (inv : MatchInv s) (howner : s.owner = some tx) {next : UInt32 → Pc}
    (hnext : ∀ cookie, (next cookie).added = tx.pc.added)
    (hfinish : ∀ cookie count, next cookie = .finish count → count = 0) :
    MatchInv (s.drainBuf tx next) := by
  refine inv.of_owner howner (ClientState.queue_get inv.queue)
    (fun r hr => Queue.mem_get_outstanding hr) rfl rfl rfl
    (hnext _) (inv.before tx howner) (inv.got tx howner) ?_
  intro count hpc hne
  exact absurd (hfinish _ count hpc) hne

/-- The task adds its request, when no outstanding one carries its cookie. -/
theorem addBuf (inv : MatchInv s) (howner : s.owner = some tx) (hadded : tx.pc.added = false)
    (hfresh : ∀ r ∈ s.queue.outstanding, r.cookie ≠ tx.task) (env : ItblEnv) :
    MatchInv (s.addBuf tx env) := by
  have htask := inv.task_ne tx howner
  have hgot : tx.gotCookie ≠ tx.task := by
    rw [inv.before tx howner hadded]
    exact htask.symm
  obtain ⟨x, hx⟩ := inv.queue
  obtain ⟨-, y, -, hy⟩ := hx.add (tx.cmd.sg s.dma) tx.task env
  rcases hx.desc.add_cases (tx.cmd.sg s.dma) tx.task env with ⟨hrc, hsame⟩ |
    ⟨r, vq, hrc, -, -, hserial, -, -, -, -, hadd⟩
  · have howner' : (s.addBuf tx env).owner = some { tx with pc := .finish 0 } := by
      simp only [ClientState.addBuf, hrc, if_false]
    refine of_some howner' ⟨y, hy⟩ htask ?_ (fun h => absurd h hgot) (by simp [Pc.added]) ?_
    · intro _ r hr hcookie
      simp only [ClientState.addBuf, hsame] at hr
      exact absurd hcookie (hfresh r hr)
    · intro count hpc hne
      exact absurd (Pc.finish.inj hpc).symm hne
  · have howner' : (s.addBuf tx env).owner =
        some { tx with serial := some s.queue.added, pc := .enterWait } := by
      simp only [ClientState.addBuf, hrc, if_true]
    refine of_some howner' ⟨y, hy⟩ htask ?_ (fun h => absurd h hgot) (by simp [Pc.added]) (by simp)
    intro _ other hother hcookie
    simp only [ClientState.addBuf, hadd] at hother
    rcases List.mem_append.mp hother with hold | hnew
    · exact absurd hcookie (hfresh other hold)
    · obtain rfl := List.mem_singleton.mp hnew
      rw [hserial]

/-! ## Every step -/

theorem advance (inv : MatchInv s) (howner : s.owner = some tx) {env : ExecEnv}
    (hfresh : FreshCookie s (.advance env)) (hstep : s.advance tx env = some t) : MatchInv t := by
  rcases ClientState.advance_cases hstep with ⟨tx', moves, hcookie, hbytes, hfinish⟩ |
    ⟨tx', moves, hpc, hcookie, hfinish⟩ | ⟨next, rfl, -, hadded, hfinish⟩ |
    ⟨next, rfl, hplace, -, hadded, hfinish⟩ | ⟨hpc, rfl⟩ | ⟨count, -, rfl⟩
  · have hanswered : tx.gotCookie = tx.task → Answered t tx' tx.bytesWritten := by
      intro h
      rw [Answered, moves.queue, moves.serial]
      exact inv.got tx howner h
    refine inv.of_owner howner (moves.queue ▸ inv.queue) (fun r hr => moves.queue ▸ hr) moves.owner
      moves.task moves.serial moves.added ?_ ?_ ?_
    · rw [hcookie]
      exact inv.before tx howner
    · rw [hcookie, hbytes]
      exact hanswered
    · intro count hpc _
      obtain ⟨hgot, rfl⟩ := hfinish count hpc
      exact hanswered hgot
  · refine inv.of_owner howner (moves.queue ▸ inv.queue) (fun r hr => moves.queue ▸ hr) moves.owner
      moves.task moves.serial moves.added (fun _ => hcookie) ?_ ?_
    · rw [hcookie]
      exact fun h => absurd h.symm (inv.task_ne tx howner)
    · exact fun count hpc => absurd hpc (hfinish count)
  · exact inv.drainBuf howner hadded hfinish
  · exact inv.getBuf howner hplace hadded hfinish
  · exact inv.addBuf howner (by rw [hpc]; rfl) (hfresh tx howner hpc) env.itbl
  · exact of_none inv.queue rfl

theorem call (inv : MatchInv s) {task : UInt32} {cmd : Command}
    (hstep : s.call task cmd = some t) : MatchInv t := by
  obtain ⟨-, htask, rfl⟩ := ClientState.call_cases hstep
  have hadded := Command.start_added s.dma cmd
  refine of_some rfl inv.queue htask ?_ (fun h => absurd h.symm htask) (fun _ => rfl) ?_
  · intro hplace
    exact absurd (hadded.symm.trans hplace) (by decide)
  · intro count hpc
    rw [show cmd.start s.dma = .finish count from hpc] at hadded
    simp [Pc.added] at hadded

theorem step (inv : MatchInv s) {action : ClientAction} (hfresh : FreshCookie s action)
    (hstep : s.step action = some t) : MatchInv t := by
  rcases ClientState.step_cases inv.queue hstep with ⟨task, cmd, rfl, hcall⟩ |
    ⟨env, tx, rfl, howner, hadvance⟩ | ⟨howner, hqueue, houtstanding, hcompleted⟩
  · exact inv.call hcall
  · exact inv.advance howner hfresh hadvance
  · exact inv.device hqueue howner houtstanding hcompleted

end MatchInv

/-! ## Every run -/

/-- In every run in which no task adds a request while an earlier one of its own is
outstanding, every non-zero byte count is the length that the device reported for the
request of the call that returns it. -/
theorem reply_matched {queueSize : UInt32} (hsize : ValidQueueSize queueSize)
    (modern useEventIdx useIndirect irqInstalled : Bool) (channel : Channel) (dma : DmaBuffers)
    (actions : List ClientAction)
    (hwithin : Machine.Within ClientState.step FreshCookie (ClientState.initial channel dma
      irqInstalled (Queue.initial queueSize modern useEventIdx useIndirect)) actions) :
    Machine.Within ClientState.step ReplyMatched (ClientState.initial channel dma irqInstalled
      (Queue.initial queueSize modern useEventIdx useIndirect)) actions := by
  have hinitial : MatchInv (ClientState.initial channel dma irqInstalled
      (Queue.initial queueSize modern useEventIdx useIndirect)) :=
    MatchInv.of_none ⟨_, QueueInv.initial hsize modern useEventIdx useIndirect⟩ rfl
  refine Machine.within_imp (I := MatchInv) ?_ (fun s action t inv => inv.step) hinitial hwithin
  intro s action inv _
  cases action with
  | advance env =>
      intro tx howner count hreturned
      exact inv.count tx count howner (Pc.returned_eq_some.mp hreturned)
  | _ => trivial

/-- One command, answered while the task polls. -/
theorem reply_matched_prompt :
    Machine.Within ClientState.step ReplyMatched
      (ClientState.initial .ctrlq sampleDma false (Queue.initial 4 true false false))
      (.call 100 (.doIo 24 24) :: List.replicate 4 (.advance noSignal) ++
        [.fetch, .complete 0 24] ++ List.replicate 3 (.advance noSignal)) :=
  reply_matched validQueueSize_four true false false false .ctrlq sampleDma _ (by decide)

/-- A task gives up on its first command; the device completes it while the task waits for
its second, and the second call returns 24 although nobody has answered it. -/
theorem stale_reply_accepted :
    ¬ Machine.Within ClientState.step ReplyMatched sampleClient
      (unansweredCall 100 (.doIo 24 24) noSignal sampleDma ++
        (.call 100 (.doIo 24 24) :: List.replicate 4 (.advance noSignal) ++
          [.fetch, .complete 0 24] ++ List.replicate 3 (.advance noSignal))) := by
  intro hwithin
  have hlate := Machine.within_append_right hwithin sampleClient_unanswered
  exact absurd hlate (by decide)

end VirtIOGPU
