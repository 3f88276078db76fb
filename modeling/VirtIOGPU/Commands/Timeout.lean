import VirtIOGPU.Commands.Transaction

/-!
# A call that nobody answers

While the used ring is empty every poll of the fallback path finds nothing, so the call
runs through its million polls, drains nothing and returns 0.  Its request stays in the
queue: `unansweredCall_run` gives the state in which the next call starts.
-/

namespace VirtIOGPU

open Lib

variable {s : ClientState} {tx : Transaction} {env : ExecEnv}

/-- Writing the buffers. -/
theorem run_fill (rest : List DmaBuffer) :
    Machine.run ClientState.step { s with owner := some { tx with pc := .fill rest } }
      (List.replicate rest.length (.advance env)) =
        some { s with owner := some { tx with pc := .fill [] } } := by
  induction rest with
  | nil => rfl
  | cons buffer rest ih =>
      rw [List.length_cons, List.replicate_succ, Machine.run_cons_eq_some]
      exact ⟨_, rfl, ih⟩

/-- Polling an empty used ring. -/
theorem run_poll (hempty : usedEntry s.queue.vq = none) (htask : tx.task ≠ 0)
    (hcookie : tx.gotCookie = 0) (n : ℕ) :
    Machine.run ClientState.step { s with owner := some { tx with pc := .poll n } }
      (List.replicate n (.advance env)) =
        some { s with owner := some { tx with pc := .poll 0 } } := by
  induction n with
  | zero => rfl
  | succ n ih =>
      rw [List.replicate_succ, Machine.run_cons_eq_some]
      refine ⟨_, ?_, ih⟩
      simp [ClientState.step, ClientState.advance, ClientState.getBuf, getBuf_of_none hempty,
        Queue.get_of_none hempty, htask.symm, hcookie]

/-- The steps of a call on the control queue up to the end of its polls, which all fail. -/
def exhaustedCall (task : UInt32) (cmd : Command) (env : ExecEnv) (dma : DmaBuffers) :
    List ClientAction :=
  .call task cmd ::
    (List.replicate (cmd.writes dma).length (.advance env) ++
      (List.replicate 2 (.advance env) ++
        List.replicate Channel.ctrlq.pollTimeout (.advance env)))

/-- Nobody signals a task that polls: no interrupts, or no free signal bit. -/
theorem exhaustedCall_run {task : UInt32} {cmd : Command} (howner : s.owner = none)
    (htask : task ≠ 0) (hchannel : s.channel = .ctrlq) (hcmd : cmd.channel = .ctrlq)
    (hpolls : s.irqInstalled = false ∨ env.sigBit = none)
    (hrc : (virtQueueAddBuf s.queue.vq (cmd.sg s.dma).entries (cmd.sg s.dma).outNum
      (cmd.sg s.dma).inNum task env.itbl).rc = 0)
    (hempty : usedEntry (s.queue.add (cmd.sg s.dma) task env.itbl).vq = none) :
    Machine.run ClientState.step s (exhaustedCall task cmd env s.dma) =
      some
        { s with
          queue := s.queue.add (cmd.sg s.dma) task env.itbl
          owner := some ⟨task, cmd, .poll 0, 0, 0, 0, some s.queue.added⟩ } := by
  let tx : Transaction := ⟨task, cmd, .fill [], 0, 0, 0, none⟩
  let added : ClientState := { s with queue := s.queue.add (cmd.sg s.dma) task env.itbl }
  let waiting : Transaction := { tx with serial := some s.queue.added }
  have hcall : s.step (.call task cmd) =
      some { s with owner := some { tx with pc := .fill (cmd.writes s.dma) } } := by
    simp [ClientState.step, ClientState.call, howner, htask, hchannel, hcmd, Command.start, tx]
  have hadd : Machine.run ClientState.step { s with owner := some { tx with pc := .fill [] } }
      (List.replicate 2 (.advance env)) =
        some { added with
          owner := some { waiting with pc := .poll Channel.ctrlq.pollTimeout } } := by
    rcases hpolls with hirq | hbit
    · simp [Machine.run, List.replicate, ClientState.step, ClientState.advance,
        ClientState.addBuf, hrc, hirq, hchannel, tx, added, waiting]
    · simp [Machine.run, List.replicate, ClientState.step, ClientState.advance,
        ClientState.addBuf, hrc, hbit, hchannel, tx, added, waiting]
  have hexhaust : Machine.run ClientState.step
      { added with owner := some { waiting with pc := .poll Channel.ctrlq.pollTimeout } }
      (List.replicate Channel.ctrlq.pollTimeout (.advance env)) =
        some { added with owner := some { waiting with pc := .poll 0 } } :=
    run_poll hempty htask rfl Channel.ctrlq.pollTimeout
  rw [exhaustedCall, Machine.run_cons_eq_some]
  refine ⟨_, hcall, ?_⟩
  rw [Machine.run_append (run_fill _), Machine.run_append hadd, hexhaust]

/-- The steps of a call on the control queue whose polls all fail. -/
def unansweredCall (task : UInt32) (cmd : Command) (env : ExecEnv) (dma : DmaBuffers) :
    List ClientAction :=
  .call task cmd ::
    (List.replicate (cmd.writes dma).length (.advance env) ++
      (List.replicate 2 (.advance env) ++
        (List.replicate Channel.ctrlq.pollTimeout (.advance env) ++
          List.replicate 4 (.advance env))))

theorem unansweredCall_eq (task : UInt32) (cmd : Command) (env : ExecEnv) (dma : DmaBuffers) :
    unansweredCall task cmd env dma =
      exhaustedCall task cmd env dma ++ List.replicate 4 (.advance env) := by
  simp only [unansweredCall, exhaustedCall, List.cons_append, List.append_assoc]

theorem unansweredCall_run {task : UInt32} {cmd : Command} (howner : s.owner = none)
    (htask : task ≠ 0) (hchannel : s.channel = .ctrlq) (hcmd : cmd.channel = .ctrlq)
    (hpolls : s.irqInstalled = false ∨ env.sigBit = none)
    (hrc : (virtQueueAddBuf s.queue.vq (cmd.sg s.dma).entries (cmd.sg s.dma).outNum
      (cmd.sg s.dma).inNum task env.itbl).rc = 0)
    (hempty : usedEntry (s.queue.add (cmd.sg s.dma) task env.itbl).vq = none) :
    Machine.run ClientState.step s (unansweredCall task cmd env s.dma) =
      some { s with queue := s.queue.add (cmd.sg s.dma) task env.itbl } := by
  rw [unansweredCall_eq,
    Machine.run_append (exhaustedCall_run howner htask hchannel hcmd hpolls hrc hempty)]
  simp [Machine.run, List.replicate, ClientState.step, ClientState.advance, ClientState.drainBuf,
    getBuf_of_none hempty, Queue.get_of_none hempty, htask.symm, howner]

/-! ## A small instance -/

/-- The buffers of the examples. -/
def sampleDma : DmaBuffers := ⟨4096, 8192, 65536, 12288⟩

/-- A control queue of four entries, before interrupts are installed. -/
def sampleClient : ClientState :=
  ClientState.initial .ctrlq sampleDma false (Queue.initial 4 true false false)

/-- No signal bit and no indirect table. -/
def noSignal : ExecEnv := ⟨none, ⟨0, 0, 0, 0⟩⟩

/-- The first command of task 100 is left unanswered. -/
theorem sampleClient_unanswered :
    Machine.run ClientState.step sampleClient
      (unansweredCall 100 (.doIo 24 24) noSignal sampleDma) =
        some
          { sampleClient with
            queue :=
              sampleClient.queue.add (Command.sg sampleDma (.doIo 24 24)) 100 noSignal.itbl } :=
  unansweredCall_run rfl (by decide) rfl rfl (Or.inl rfl) (by decide) (by decide)

end VirtIOGPU
