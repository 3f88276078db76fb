import VirtIOGPU.Virtqueue.Runs

/-!
# Synchronous transactions

`chip_do_io`, `chip_do_io_3sg` and `chip_wait_ctrlq` on the control queue, and
`chip_cursor_send` on the cursor queue, with the interrupt handler and the device.
Both queues are used in the same way, so there is one machine with the queue as a
parameter: `Channel` says where the two differ.

A wrapper holds the lock of its queue (`io_lock`, `cursor_lock`) from before it
fills the buffers until after the wait, so at most one transaction is under way.
`owner` is the task that holds the lock, with its place in the code (`Pc`) and its
local variables.  One action of the machine is one access to the queue, to a shared
field or to the task's signals; the device and the interrupt handler may act between
any two of them.

## Strategy

The results of the next modules never open `advance`.  They use `advance_cases`, which sorts the
steps of the owner by what they do to the queue and to the locals of the wait:

```text
step of the owner                  queue       got_cookie, bytes_written
most steps                         stays       stay
entering the wait                  stays       are initialised
a look in the wait loop            GetBuf      those of the entry, if there is one
a look in the drain                GetBuf      stay
the end of the fill                AddBuf      stay
the return                         stays       the owner is none afterwards
```
-/

namespace VirtIOGPU

/-! ## Buffers and commands -/

/-- A block of `chip_dma_alloc`: physical address and size. -/
structure DmaBuffer where
  phys : UInt32
  size : UInt32
  deriving DecidableEq, Repr

/-- The physical addresses of `cmd_buf`, `resp_buf`, `cmd3d_buf` and `cursor_cmd_buf`. -/
structure DmaBuffers where
  cmdBufPhys : UInt32
  respBufPhys : UInt32
  cmd3dPhys : UInt32
  cursorCmdPhys : UInt32
  deriving DecidableEq, Repr

def DmaBuffers.cmdBuf (dma : DmaBuffers) : DmaBuffer := ⟨dma.cmdBufPhys, 4096⟩
def DmaBuffers.respBuf (dma : DmaBuffers) : DmaBuffer := ⟨dma.respBufPhys, 4096⟩
def DmaBuffers.cmd3dBuf (dma : DmaBuffers) : DmaBuffer := ⟨dma.cmd3dPhys, 65536⟩
def DmaBuffers.cursorCmdBuf (dma : DmaBuffers) : DmaBuffer := ⟨dma.cursorCmdPhys, 4096⟩

inductive Channel where
  | ctrlq
  | cursorq
  deriving DecidableEq, Repr

/-- The iterations of the polling fallback. -/
def Channel.pollTimeout : Channel → ℕ
  | .ctrlq => 1000000
  | .cursorq => 50000

/-- The transactions: a wrapper over `chip_do_io` (all but one of them, through
`chip_gpu_send`), `chip_Submit3D` over `chip_do_io_3sg`, and `chip_cursor_send`. -/
inductive Command where
  | doIo (cmdSize respSize : UInt32)
  | submit3D (cmdSize : UInt32)
  | cursorSend
  deriving DecidableEq, Repr

def Command.channel : Command → Channel
  | .doIo _ _ => .ctrlq
  | .submit3D _ => .ctrlq
  | .cursorSend => .cursorq

/-- The buffers that the wrapper writes before it adds the request, in order. -/
def Command.writes (dma : DmaBuffers) : Command → List DmaBuffer
  | .doIo _ _ => [dma.cmdBuf, dma.respBuf]
  | .submit3D _ => [dma.cmdBuf, dma.respBuf, dma.cmd3dBuf]
  | .cursorSend => [dma.cursorCmdBuf]

/-- The scatter-gather array.  The header of `SUBMIT_3D` has 32 bytes, a bare reply header
24, a cursor command 56. -/
def Command.sg (dma : DmaBuffers) : Command → SgArray
  | .doIo cmdSize respSize =>
      ⟨[⟨dma.cmdBufPhys, cmdSize⟩, ⟨dma.respBufPhys, respSize⟩], 1, 1, rfl,
        Nat.zero_lt_succ _, by simp⟩
  | .submit3D cmdSize =>
      ⟨[⟨dma.cmdBufPhys, 32⟩, ⟨dma.cmd3dPhys, cmdSize⟩, ⟨dma.respBufPhys, 24⟩], 2, 1, rfl,
        Nat.zero_lt_succ _, by simp⟩
  | .cursorSend => ⟨[⟨dma.cursorCmdPhys, 56⟩], 1, 0, rfl, Nat.zero_lt_succ _, by simp⟩

/-! ## A task in a transaction -/

/-- Where the task is. -/
inductive Pc where
  /-- `chip_cursor_send`: drain previous completions. -/
  | predrain
  /-- Write the buffers that remain, then `VirtQueue_AddBuf` and the kick. -/
  | fill (rest : List DmaBuffer)
  /-- `AllocSignal`, when interrupts are installed. -/
  | enterWait
  /-- `SetSignal(0, sig_mask)` before the wait. -/
  | clearSignal
  | publishTask
  | publishMask
  /-- The wait loop, with `n` attempts left. -/
  | attempt (n : ℕ)
  /-- `Wait(sig_mask)`. -/
  | wait (n : ℕ)
  /-- `SetSignal(0, sig_mask)` after `Wait`. -/
  | resetSignal (n : ℕ)
  | retractMask
  | retractTask
  /-- The polling fallback, with `n` polls left. -/
  | poll (n : ℕ)
  /-- `got_cookie != cookie`? -/
  | check
  /-- Drain stale entries after a timeout. -/
  | drain (drained : ℕ)
  /-- Return the byte count and release the lock. -/
  | finish (count : UInt32)
  deriving DecidableEq, Repr

/-- The task that holds the lock.  `serial` is the number of the request that this call
added; it is written for statements only. -/
structure Transaction where
  task : UInt32
  cmd : Command
  pc : Pc
  sigMask : UInt32
  gotCookie : UInt32
  bytesWritten : UInt32
  serial : Option ℕ
  deriving DecidableEq, Repr

structure ClientState where
  channel : Channel
  dma : DmaBuffers
  irqInstalled : Bool
  queue : Queue
  owner : Option Transaction
  /-- The received signals of every task. -/
  signals : UInt32 → UInt32
  /-- `ctrlq_wait_task` or `cursorq_wait_task`. -/
  waitTask : UInt32
  /-- `ctrlq_wait_mask` or `cursorq_wait_mask`. -/
  waitMask : UInt32
  /-- The queue bit of the ISR register. -/
  isr : Bool

/-- After `chip_virtio_init`: an empty queue and nobody waiting. -/
def ClientState.initial (channel : Channel) (dma : DmaBuffers) (irqInstalled : Bool)
    (queue : Queue) : ClientState where
  channel := channel
  dma := dma
  irqInstalled := irqInstalled
  queue := queue
  owner := none
  signals := fun _ => 0
  waitTask := 0
  waitMask := 0
  isr := false

/-- What exec.library answers during a step: a signal bit, or none, and the calls of
`VirtQueue_AddBuf`. -/
structure ExecEnv where
  sigBit : Option UInt32
  itbl : ItblEnv
  deriving DecidableEq, Repr

/-! ## Steps -/

/-- A call of `VirtQueue_GetBuf` in the wait, with the cookie and length kept. -/
def ClientState.getBuf (s : ClientState) (tx : Transaction) (next : UInt32 → Pc) : ClientState :=
  let res := virtQueueGetBuf s.queue.vq
  { s with
    queue := s.queue.get
    owner := some
      { tx with
        gotCookie := res.cookie
        bytesWritten := res.lenOut.getD tx.bytesWritten
        pc := next res.cookie } }

/-- A call of `VirtQueue_GetBuf` that only drains. -/
def ClientState.drainBuf (s : ClientState) (tx : Transaction) (next : UInt32 → Pc) : ClientState :=
  { s with
    queue := s.queue.get
    owner := some { tx with pc := next (virtQueueGetBuf s.queue.vq).cookie } }

/-- `VirtQueue_AddBuf` with the task's address as the cookie. -/
def ClientState.addBuf (s : ClientState) (tx : Transaction) (env : ItblEnv) : ClientState :=
  let sg := tx.cmd.sg s.dma
  let rc := (virtQueueAddBuf s.queue.vq sg.entries sg.outNum sg.inNum tx.task env).rc
  { s with
    queue := s.queue.add sg tx.task env
    owner := some
      (if rc = 0 then { tx with serial := some s.queue.added, pc := .enterWait }
      else { tx with pc := .finish 0 }) }

/-- The next step of the task that holds the lock; `none` while it is blocked in `Wait`. -/
def ClientState.advance (s : ClientState) (tx : Transaction) (env : ExecEnv) : Option ClientState :=
  match tx.pc with
  | .predrain =>
      some (s.drainBuf tx fun cookie =>
        if cookie = 0 then .fill (tx.cmd.writes s.dma) else .predrain)
  | .fill (_ :: rest) => some { s with owner := some { tx with pc := .fill rest } }
  | .fill [] => some (s.addBuf tx env.itbl)
  | .enterWait =>
      let tx := { tx with gotCookie := 0, bytesWritten := 0 }
      match s.irqInstalled, env.sigBit with
      | true, some bit =>
          some { s with owner := some { tx with sigMask := 1 <<< bit, pc := .clearSignal } }
      | _, _ => some { s with owner := some { tx with pc := .poll s.channel.pollTimeout } }
  | .clearSignal =>
      some
        { s with
          signals := Function.update s.signals tx.task (s.signals tx.task &&& ~~~tx.sigMask)
          owner := some { tx with pc := .publishTask } }
  | .publishTask =>
      some { s with waitTask := tx.task, owner := some { tx with pc := .publishMask } }
  | .publishMask =>
      some { s with waitMask := tx.sigMask, owner := some { tx with pc := .attempt 50 } }
  | .attempt 0 => some { s with owner := some { tx with pc := .retractMask } }
  | .attempt (n + 1) =>
      some (s.getBuf tx fun cookie => if cookie = tx.task then .retractMask else .wait n)
  | .wait n =>
      if s.signals tx.task &&& tx.sigMask = 0 then none
      else
        some
          { s with
            signals := Function.update s.signals tx.task (s.signals tx.task &&& ~~~tx.sigMask)
            owner := some { tx with pc := .resetSignal n } }
  | .resetSignal n =>
      some
        { s with
          signals := Function.update s.signals tx.task (s.signals tx.task &&& ~~~tx.sigMask)
          owner := some { tx with pc := .attempt n } }
  | .retractMask => some { s with waitMask := 0, owner := some { tx with pc := .retractTask } }
  | .retractTask => some { s with waitTask := 0, owner := some { tx with pc := .check } }
  | .poll 0 => some { s with owner := some { tx with pc := .check } }
  | .poll (n + 1) =>
      some (s.getBuf tx fun cookie => if cookie = tx.task then .check else .poll n)
  | .check =>
      some
        { s with
          owner := some
            { tx with
              pc := if tx.gotCookie = tx.task then .finish tx.bytesWritten else .drain 0 } }
  | .drain drained =>
      some (s.drainBuf tx fun cookie =>
        if cookie = 0 ∨ 256 < drained + 1 then .finish 0 else .drain (drained + 1))
  | .finish _ => some { s with owner := none }

inductive ClientAction where
  /-- A task obtains the lock for a command. -/
  | call (task : UInt32) (cmd : Command)
  /-- The task that holds the lock makes its next step. -/
  | advance (env : ExecEnv)
  /-- The device takes the next head from the avail ring. -/
  | fetch
  /-- The device completes the `k`-th request that it holds and raises its interrupt. -/
  | complete (k : ℕ) (len : UInt32)
  /-- The device raises its interrupt for the other queue. -/
  | otherQueue
  /-- The interrupt handler runs. -/
  | interrupt
  deriving DecidableEq, Repr

/-- Where a transaction starts. -/
def Command.start (dma : DmaBuffers) (cmd : Command) : Pc :=
  match cmd.channel with
  | .ctrlq => .fill (cmd.writes dma)
  | .cursorq => .predrain

def ClientState.call (s : ClientState) (task : UInt32) (cmd : Command) : Option ClientState :=
  if s.owner = none ∧ task ≠ 0 ∧ cmd.channel = s.channel then
    some { s with owner := some ⟨task, cmd, cmd.start s.dma, 0, 0, 0, none⟩ }
  else none

/-- `chip_InterruptHandler`, for this queue. -/
def ClientState.interrupt (s : ClientState) : Option ClientState :=
  if s.isr then
    some
      { s with
        isr := false
        signals :=
          if s.waitTask ≠ 0 ∧ s.waitMask ≠ 0 then
            Function.update s.signals s.waitTask (s.signals s.waitTask ||| s.waitMask)
          else s.signals }
  else none

def ClientState.step (s : ClientState) : ClientAction → Option ClientState
  | .call task cmd => s.call task cmd
  | .advance env => s.owner.bind fun tx => s.advance tx env
  | .fetch => s.queue.fetch.map fun queue => { s with queue := queue }
  | .complete k len =>
      (s.queue.complete k len).map fun queue => { s with queue := queue, isr := true }
  | .otherQueue => some { s with isr := true }
  | .interrupt => s.interrupt

/-! ## What a step of the task can do -/

/-- The places in the code from `VirtQueue_AddBuf` on. -/
def Pc.added : Pc → Bool
  | .predrain => false
  | .fill _ => false
  | _ => true

/-- The drain after a timeout. -/
def Pc.draining : Pc → Bool
  | .drain _ => true
  | _ => false

/-- The byte count, when the call returns. -/
def Pc.returned : Pc → Option UInt32
  | .finish count => some count
  | _ => none

theorem Pc.returned_eq_some {pc : Pc} {count : UInt32} :
    pc.returned = some count ↔ pc = .finish count := by
  cases pc <;> simp [Pc.returned]

/-- The task goes on without touching the queue. -/
structure ClientState.Moves (s : ClientState) (tx : Transaction) (t : ClientState)
    (tx' : Transaction) : Prop where
  queue : t.queue = s.queue
  owner : t.owner = some tx'
  task : tx'.task = tx.task
  cmd : tx'.cmd = tx.cmd
  serial : tx'.serial = tx.serial
  added : tx'.pc.added = tx.pc.added

/-- The ways in which a step of the task that holds the lock changes the queue and the
locals of the wait. -/
theorem ClientState.advance_cases {s t : ClientState} {tx : Transaction} {env : ExecEnv}
    (hstep : s.advance tx env = some t) :
    -- the locals stay, and the task may be about to return the length that it has
    (∃ tx', s.Moves tx t tx' ∧ tx'.gotCookie = tx.gotCookie ∧
      tx'.bytesWritten = tx.bytesWritten ∧
      ∀ count, tx'.pc = .finish count → tx.gotCookie = tx.task ∧ count = tx.bytesWritten) ∨
    -- the locals are initialised
    (∃ tx', s.Moves tx t tx' ∧ tx.pc = .enterWait ∧ tx'.gotCookie = 0 ∧
      ∀ count, tx'.pc ≠ .finish count) ∨
    (∃ next, t = s.drainBuf tx next ∧ (tx.pc.added = true → tx.pc.draining = true) ∧
      (∀ cookie, (next cookie).added = tx.pc.added) ∧
      ∀ cookie count, next cookie = .finish count → count = 0) ∨
    -- the wait ends with the task's own cookie
    (∃ next, t = s.getBuf tx next ∧ tx.pc.added = true ∧
      (next tx.task = .retractMask ∨ next tx.task = .check) ∧
      (∀ cookie, (next cookie).added = true) ∧ ∀ cookie count, next cookie ≠ .finish count) ∨
    (tx.pc = .fill [] ∧ t = s.addBuf tx env.itbl) ∨
    (∃ count, tx.pc = .finish count ∧ t = { s with owner := none }) := by
  cases hpc : tx.pc with
  | predrain =>
      simp only [advance, hpc, Option.some.injEq] at hstep
      -- a look that finds nothing goes on, and one that finds a cookie looks again
      refine Or.inr (Or.inr (Or.inl ⟨_, hstep.symm, by simp [Pc.added], fun cookie => ?_,
        fun cookie count => ?_⟩)) <;> split <;> simp [Pc.added]
  | fill rest =>
      cases rest with
      | nil =>
          simp only [advance, hpc, Option.some.injEq] at hstep
          exact Or.inr (Or.inr (Or.inr (Or.inr (Or.inl ⟨rfl, hstep.symm⟩))))
      | cons buffer rest =>
          simp only [advance, hpc, Option.some.injEq] at hstep
          subst hstep
          exact Or.inl ⟨_, ⟨rfl, rfl, rfl, rfl, rfl, by rw [hpc]; rfl⟩, rfl, rfl, by simp⟩
  | enterWait =>
      simp only [advance, hpc] at hstep
      -- with a signal the task waits, without one it polls
      split at hstep <;> obtain rfl := Option.some.inj hstep
      · exact Or.inr (Or.inl ⟨_, ⟨rfl, rfl, rfl, rfl, rfl, by rw [hpc]; rfl⟩, rfl, rfl, by simp⟩)
      · exact Or.inr (Or.inl ⟨_, ⟨rfl, rfl, rfl, rfl, rfl, by rw [hpc]; rfl⟩, rfl, rfl, by simp⟩)
  | attempt n =>
      cases n with
      | zero =>
          simp only [advance, hpc, Option.some.injEq] at hstep
          subst hstep
          exact Or.inl ⟨_, ⟨rfl, rfl, rfl, rfl, rfl, by rw [hpc]; rfl⟩, rfl, rfl, by simp⟩
      | succ n =>
          simp only [advance, hpc, Option.some.injEq] at hstep
          refine Or.inr (Or.inr (Or.inr (Or.inl ⟨_, hstep.symm, rfl, Or.inl (if_pos rfl),
            fun cookie => ?_, fun cookie count => ?_⟩))) <;> split <;> simp [Pc.added]
  | wait n =>
      simp only [advance, hpc] at hstep
      split at hstep
      · simp at hstep
      · obtain rfl := Option.some.inj hstep
        exact Or.inl ⟨_, ⟨rfl, rfl, rfl, rfl, rfl, by rw [hpc]; rfl⟩, rfl, rfl, by simp⟩
  | poll n =>
      cases n with
      | zero =>
          simp only [advance, hpc, Option.some.injEq] at hstep
          subst hstep
          exact Or.inl ⟨_, ⟨rfl, rfl, rfl, rfl, rfl, by rw [hpc]; rfl⟩, rfl, rfl, by simp⟩
      | succ n =>
          simp only [advance, hpc, Option.some.injEq] at hstep
          refine Or.inr (Or.inr (Or.inr (Or.inl ⟨_, hstep.symm, rfl, Or.inr (if_pos rfl),
            fun cookie => ?_, fun cookie count => ?_⟩))) <;> split <;> simp [Pc.added]
  | check =>
      simp only [advance, hpc, Option.some.injEq] at hstep
      subst hstep
      -- this is where the length is returned, or the drain begins
      by_cases hgot : tx.gotCookie = tx.task
      · exact Or.inl ⟨_, ⟨rfl, rfl, rfl, rfl, rfl, by simp [hpc, hgot, Pc.added]⟩, rfl, rfl,
          by simp [hgot]⟩
      · exact Or.inl ⟨_, ⟨rfl, rfl, rfl, rfl, rfl, by simp [hpc, hgot, Pc.added]⟩, rfl, rfl,
          by simp [hgot]⟩
  | drain drained =>
      simp only [advance, hpc, Option.some.injEq] at hstep
      refine Or.inr (Or.inr (Or.inl ⟨_, hstep.symm, fun _ => rfl, fun cookie => ?_,
        fun cookie count => ?_⟩)) <;> split <;> simp_all [Pc.added]
  | finish count =>
      simp only [advance, hpc, Option.some.injEq] at hstep
      exact Or.inr (Or.inr (Or.inr (Or.inr (Or.inr ⟨count, rfl, hstep.symm⟩))))
  | _ =>
      -- the steps on signals and on the published task and mask
      simp only [advance, hpc, Option.some.injEq] at hstep
      subst hstep
      exact Or.inl ⟨_, ⟨rfl, rfl, rfl, rfl, rfl, by rw [hpc]; rfl⟩, rfl, rfl, by simp⟩

/-- A step starts a call, or the task goes on, or the device or the interrupt handler acts,
which leaves the task and the requests that it waits for alone. -/
theorem ClientState.step_cases {s t : ClientState} {action : ClientAction}
    (hqueue : ∃ x, QueueInv s.queue x) (hstep : s.step action = some t) :
    (∃ task cmd, action = .call task cmd ∧ s.call task cmd = some t) ∨
    (∃ env tx, action = .advance env ∧ s.owner = some tx ∧ s.advance tx env = some t) ∨
    (t.owner = s.owner ∧ (∃ x, QueueInv t.queue x) ∧
      t.queue.outstanding = s.queue.outstanding ∧
      ∀ answer ∈ s.queue.completed, answer ∈ t.queue.completed) := by
  obtain ⟨x, hx⟩ := hqueue
  cases action with
  | call task cmd => exact Or.inl ⟨task, cmd, rfl, hstep⟩
  | advance env =>
      obtain ⟨tx, howner, hadvance⟩ := Option.bind_eq_some_iff.mp hstep
      exact Or.inr (Or.inl ⟨env, tx, rfl, howner, hadvance⟩)
  | fetch =>
      obtain ⟨queue, hfetch, rfl⟩ := Option.map_eq_some_iff.mp hstep
      obtain ⟨-, y, -, hy⟩ := hx.fetch hfetch
      obtain ⟨houtstanding, hcompleted⟩ := Queue.fetch_frame hfetch
      exact Or.inr (Or.inr ⟨rfl, ⟨y, hy⟩, houtstanding, fun answer h => hcompleted ▸ h⟩)
  | complete k len =>
      obtain ⟨queue, hcomplete, rfl⟩ := Option.map_eq_some_iff.mp hstep
      obtain ⟨-, y, -, hy⟩ := hx.complete hcomplete
      obtain ⟨houtstanding, hcompleted⟩ := Queue.complete_frame hcomplete
      exact Or.inr (Or.inr ⟨rfl, ⟨y, hy⟩, houtstanding, hcompleted⟩)
  | otherQueue =>
      obtain rfl := Option.some.inj hstep
      exact Or.inr (Or.inr ⟨rfl, ⟨x, hx⟩, rfl, fun _ h => h⟩)
  | interrupt =>
      simp only [ClientState.step, ClientState.interrupt] at hstep
      split at hstep
      · obtain rfl := Option.some.inj hstep
        exact Or.inr (Or.inr ⟨rfl, ⟨x, hx⟩, rfl, fun _ h => h⟩)
      · simp at hstep

/-- A call starts from a free lock, with fresh locals, before its request is added. -/
theorem ClientState.call_cases {s t : ClientState} {task : UInt32} {cmd : Command}
    (hstep : s.call task cmd = some t) :
    s.owner = none ∧ task ≠ 0 ∧ t = { s with
      owner := some ⟨task, cmd, cmd.start s.dma, 0, 0, 0, none⟩ } := by
  unfold ClientState.call at hstep
  split at hstep
  · rename_i hfree
    exact ⟨hfree.1, hfree.2.1, (Option.some.inj hstep).symm⟩
  · simp at hstep

theorem Command.start_added (dma : DmaBuffers) (cmd : Command) :
    (cmd.start dma).added = false := by
  cases cmd <;> rfl

theorem ClientState.queue_get {s : ClientState} (hqueue : ∃ x, QueueInv s.queue x) :
    ∃ x, QueueInv s.queue.get x := by
  obtain ⟨x, hx⟩ := hqueue
  obtain ⟨-, y, -, hy⟩ := hx.get
  exact ⟨y, hy⟩

end VirtIOGPU
