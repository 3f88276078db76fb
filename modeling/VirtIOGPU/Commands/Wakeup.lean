import VirtIOGPU.Commands.Timeout
import VirtIOGPU.Lib.LongWord

/-!
# Wake-ups of the waiting task

A task that waits for its answer looks into the used ring once, blocks in `Wait` and looks
again when it is signalled.  Here `chip_InterruptHandler` makes one step for each access
to the ISR register and to the published fields, so that it may be overtaken by the task
between any two of them.

One look takes one entry.  When the first of two entries is a stale one and the signal for
both is gone, the task blocks with its own answer in the ring: `wakeup_lost`.
`no_lost_wakeup` shows that this is the only way to sleep through an answer.

## Strategy

`WakeInv` says what the task has published at its place in the code, and that a task that is about
to block is `Awake`: the used ring is empty, or its signal is set, or an interrupt is pending that
will set it.  Each of the four parties keeps it in its own way.

```text
party               used ring        the task is still awake because
the task, one look  one entry less   the ring is empty then, or by the condition of the look
the task, else      stays            it does not block
the device          one entry more   the interrupt is raised with it
the handler         stays            its signal follows the interrupt
another task        stays            nobody else holds the lock
```

The condition on a look cannot be dropped.  If the first of two entries is another request's and
neither a signal nor an interrupt is pending, the invariant fails right after it
(`usedEntry_get_ne_none`), and the run above is one that gets there.
-/

namespace VirtIOGPU

open Lib Lib.SignalMask

/-! ## The interrupt handler step by step -/

inductive HandlerPc where
  | idle
  /-- The ISR register is read, and by that cleared. -/
  | readTask
  | readMask (task : UInt32)
  | signal (task mask : UInt32)
  deriving DecidableEq, Repr

structure WaitState where
  client : ClientState
  handler : HandlerPc

def WaitState.initial (channel : Channel) (dma : DmaBuffers) (irqInstalled : Bool)
    (queue : Queue) : WaitState where
  client := ClientState.initial channel dma irqInstalled queue
  handler := .idle

/-- The next step of `chip_InterruptHandler`. -/
def WaitState.handlerStep (w : WaitState) : Option WaitState :=
  match w.handler with
  | .idle =>
      if w.client.isr then some ⟨{ w.client with isr := false }, .readTask⟩ else none
  | .readTask => some { w with handler := .readMask w.client.waitTask }
  | .readMask task => some { w with handler := .signal task w.client.waitMask }
  | .signal task mask =>
      if task ≠ 0 ∧ mask ≠ 0 then
        some
          ⟨{ w.client with
              signals :=
                Function.update w.client.signals task (w.client.signals task ||| mask) }, .idle⟩
      else some { w with handler := .idle }

inductive WaitAction where
  /-- A task, the device, or an interrupt of the device for the other queue. -/
  | client (action : ClientAction)
  | handler
  deriving DecidableEq, Repr

def WaitState.step (w : WaitState) : WaitAction → Option WaitState
  | .client .interrupt => none
  | .client action => (w.client.step action).map fun client => { w with client := client }
  | .handler => w.handlerStep

/-! ## Waiting and waking -/

/-- The task is blocked in `Wait`, unless it is signalled. -/
def Pc.blocked : Pc → Bool
  | .wait _ => true
  | _ => false

/-- The next step looks into the used ring and may block. -/
def Pc.attempts : Pc → Bool
  | .attempt (_ + 1) => true
  | _ => false

/-- The handler will signal the task with this mask, when it reads the published fields. -/
def HandlerPc.reaches (task mask : UInt32) : HandlerPc → Bool
  | .idle => false
  | .readTask => true
  | .readMask t => t = task
  | .signal t m => t = task ∧ m = mask

def WaitState.SignalPending (w : WaitState) (tx : Transaction) : Prop :=
  w.client.signals tx.task &&& tx.sigMask ≠ 0

def WaitState.InterruptPending (w : WaitState) (tx : Transaction) : Prop :=
  w.client.isr = true ∨ w.handler.reaches tx.task tx.sigMask = true

/-- The number of used entries that the driver has not consumed. -/
def unconsumed (vq : Virtqueue) : ℕ :=
  (vr16 vq.modern vq.used.idx - vq.lastUsedIdx).toNat

/-- The first of them carries the task's cookie. -/
def OwnAnswerFirst (vq : Virtqueue) (task : UInt32) : Prop :=
  ∃ entry ∈ usedEntry vq, entry.id < vq.num ∧ vq.cookies entry.id.toNat = task

/-- No task sleeps while the used ring holds an entry and nothing is about to wake it. -/
def WaitState.NoLostWakeup (w : WaitState) : Prop :=
  ∀ tx ∈ w.client.owner, tx.pc.blocked = true → ¬ w.SignalPending tx → ¬ w.InterruptPending tx →
    usedEntry w.client.queue.vq = none

/-- A look that finds an entry of another request leaves none behind, or the task is still
about to be woken. -/
def NoneLeftBehind (w : WaitState) : WaitAction → Prop
  | .client (.advance _) => ∀ tx ∈ w.client.owner, tx.pc.attempts = true →
      OwnAnswerFirst w.client.queue.vq tx.task ∨ unconsumed w.client.queue.vq ≤ 1 ∨
        w.SignalPending tx ∨ w.InterruptPending tx
  | _ => True

instance (w : WaitState) (tx : Transaction) : Decidable (w.SignalPending tx) :=
  inferInstanceAs (Decidable (_ ≠ _))

instance (w : WaitState) (tx : Transaction) : Decidable (w.InterruptPending tx) :=
  inferInstanceAs (Decidable (_ ∨ _))

instance (vq : Virtqueue) (task : UInt32) : Decidable (OwnAnswerFirst vq task) :=
  inferInstanceAs (Decidable (∃ entry ∈ usedEntry vq, entry.id < vq.num ∧
    vq.cookies entry.id.toNat = task))

instance (w : WaitState) : Decidable w.NoLostWakeup :=
  inferInstanceAs (Decidable (∀ tx ∈ w.client.owner, tx.pc.blocked = true →
    ¬ w.SignalPending tx → ¬ w.InterruptPending tx → usedEntry w.client.queue.vq = none))

instance (w : WaitState) : DecidablePred (NoneLeftBehind w)
  | .client (.advance _) => inferInstanceAs (Decidable (∀ tx ∈ w.client.owner,
      tx.pc.attempts = true → OwnAnswerFirst w.client.queue.vq tx.task ∨
        unconsumed w.client.queue.vq ≤ 1 ∨ w.SignalPending tx ∨ w.InterruptPending tx))
  | .client (.call _ _) | .client .fetch | .client (.complete _ _) | .client .otherQueue
  | .client .interrupt | .handler => isTrue trivial

/-! ## One look into the used ring -/

/-- A look at an entry moves the driver's index, and nothing else that it looks at. -/
theorem get_index {s : Queue} (hne : s.vq.lastUsedIdx ≠ vr16 s.vq.modern s.vq.used.idx) :
    s.get.vq.lastUsedIdx = s.vq.lastUsedIdx + 1 ∧ s.get.vq.modern = s.vq.modern ∧
      s.get.vq.used = s.vq.used := by
  simp only [Queue.get, virtQueueGetBuf, usedEntry, if_neg hne]
  split <;> exact ⟨rfl, rfl, rfl⟩

theorem usedEntry_eq_none {vq : Virtqueue} :
    usedEntry vq = none ↔ vq.lastUsedIdx = vr16 vq.modern vq.used.idx := by
  unfold usedEntry
  split <;> simp_all

theorem usedEntry_get_eq_none {s : Queue} (hone : unconsumed s.vq ≤ 1) :
    usedEntry s.get.vq = none := by
  by_cases hempty : s.vq.lastUsedIdx = vr16 s.vq.modern s.vq.used.idx
  · have hnone := usedEntry_eq_none.mpr hempty
    rwa [Queue.get_of_none hnone]
  · have hsame := UInt16.sub_add_cancel (vr16 s.vq.modern s.vq.used.idx) s.vq.lastUsedIdx
    obtain ⟨hlast, hmodern, hused⟩ := get_index hempty
    rw [usedEntry_eq_none, hlast, hmodern, hused]
    have hsub : vr16 s.vq.modern s.vq.used.idx - s.vq.lastUsedIdx = 0 ∨
        vr16 s.vq.modern s.vq.used.idx - s.vq.lastUsedIdx = 1 := by
      rw [← UInt16.toNat_inj, ← UInt16.toNat_inj, UInt16.toNat_zero, UInt16.toNat_one]
      unfold unconsumed at hone
      omega
    rcases hsub with hsub | hsub
    · rw [hsub, UInt16.zero_add] at hsame
      exact absurd hsame hempty
    · rw [hsub] at hsame
      rw [← hsame, UInt16.add_comm]

theorem usedEntry_get_ne_none {s : Queue} (hmore : 1 < unconsumed s.vq) :
    usedEntry s.get.vq ≠ none := by
  have hne : s.vq.lastUsedIdx ≠ vr16 s.vq.modern s.vq.used.idx := by
    intro heq
    simp [unconsumed, heq] at hmore
  obtain ⟨hlast, hmodern, hused⟩ := get_index hne
  rw [Ne, usedEntry_eq_none, hlast, hmodern, hused]
  intro heq
  rw [unconsumed, ← heq, UInt16.add_comm, UInt16.add_sub_cancel, UInt16.toNat_one] at hmore
  omega

theorem getBuf_cookie_of_own {vq : Virtqueue} {task : UInt32} (hown : OwnAnswerFirst vq task) :
    (virtQueueGetBuf vq).cookie = task := by
  obtain ⟨entry, hentry, hid, hcookie⟩ := hown
  have hentry' : usedEntry vq = some entry := hentry
  rw [virtQueueGetBuf, hentry']
  simp only [UInt32.not_le.mpr hid, if_false]
  exact hcookie

theorem own_of_getBuf_cookie {vq : Virtqueue} {task : UInt32} (htask : task ≠ 0)
    (hown : (virtQueueGetBuf vq).cookie = task) : OwnAnswerFirst vq task := by
  rw [virtQueueGetBuf] at hown
  split at hown
  · exact absurd hown.symm htask
  · rename_i entry hentry
    split at hown
    · exact absurd hown.symm htask
    · rename_i hid
      exact ⟨entry, hentry, UInt32.not_le.mp hid, hown⟩

/-! ## The invariant of the wait -/

/-- The places from the allocation of the signal to the end of the wait loop. -/
def Pc.awaits : Pc → Bool
  | .clearSignal | .publishTask | .publishMask => true
  | .attempt _ | .wait _ | .resetSignal _ => true
  | _ => false

/-- What the task has published at its place in the code. -/
def ClientState.Published (s : ClientState) (tx : Transaction) : Prop :=
  match tx.pc with
  | .clearSignal | .publishTask => tx.sigMask ≠ 0
  | .publishMask => tx.sigMask ≠ 0 ∧ s.waitTask = tx.task
  | .attempt _ | .wait _ | .resetSignal _ =>
      tx.sigMask ≠ 0 ∧ s.waitTask = tx.task ∧ s.waitMask = tx.sigMask
  | _ => True

/-- Nothing is left in the used ring, or the task will be woken. -/
def WaitState.Awake (w : WaitState) (tx : Transaction) : Prop :=
  usedEntry w.client.queue.vq = none ∨ w.SignalPending tx ∨ w.InterruptPending tx

structure WakeInv (w : WaitState) : Prop where
  task_ne : ∀ tx, w.client.owner = some tx → tx.task ≠ 0
  published : ∀ tx, w.client.owner = some tx → w.client.Published tx
  awake : ∀ tx, w.client.owner = some tx → tx.pc.blocked = true → w.Awake tx

namespace WakeInv

variable {w : WaitState} {tx tx' : Transaction}

/-- The invariant, for the one task that holds the lock. -/
theorem of_some {v : WaitState} (howner : v.client.owner = some tx) (htask : tx.task ≠ 0)
    (hpublished : v.client.Published tx) (hawake : tx.pc.blocked = true → v.Awake tx) :
    WakeInv v := by
  have heq : ∀ other, v.client.owner = some other → other = tx := fun other hother =>
    (Option.some.inj (howner.symm.trans hother)).symm
  refine ⟨?_, ?_, ?_⟩
  · intro other hother
    rwa [heq other hother]
  · intro other hother
    rwa [heq other hother]
  · intro other hother
    rwa [heq other hother]

theorem of_none {v : WaitState} (howner : v.client.owner = none) : WakeInv v where
  task_ne tx h := by simp [howner] at h
  published tx h := by simp [howner] at h
  awake tx h := by simp [howner] at h

/-- The task is outside the wait loop. -/
theorem of_quiet {v : WaitState} (howner : v.client.owner = some tx) (htask : tx.task ≠ 0)
    (hquiet : tx.pc.awaits = false) : WakeInv v := by
  refine of_some howner htask ?_ fun hblocked => ?_
  · cases hpc : tx.pc <;> simp_all [Pc.awaits, ClientState.Published]
  · cases hpc : tx.pc <;> simp_all [Pc.awaits, Pc.blocked]

/-! One lemma for each place of the wait.  The signal is allocated at `enterWait`, the two fields
are published at `publishTask` and `publishMask`, and from then on the task can be woken.  It goes
to sleep at `attempt` alone. -/

section Places

variable {env : ExecEnv} {s : ClientState}

theorem enterWait (inv : WakeInv w) (howner : w.client.owner = some tx) (hpc : tx.pc = .enterWait)
    (hstep : w.client.advance tx env = some s) : WakeInv { w with client := s } := by
  have htask := inv.task_ne tx howner
  simp only [ClientState.advance, hpc] at hstep
  split at hstep <;> obtain rfl := Option.some.inj hstep
  · exact of_some rfl htask (shiftLeft_one_ne_zero _) (by simp [Pc.blocked])
  · exact of_quiet rfl htask rfl

theorem clearSignal (inv : WakeInv w) (howner : w.client.owner = some tx)
    (hpc : tx.pc = .clearSignal) (hstep : w.client.advance tx env = some s) :
    WakeInv { w with client := s } := by
  have hpublished := inv.published tx howner
  simp only [ClientState.Published, hpc] at hpublished
  simp only [ClientState.advance, hpc, Option.some.injEq] at hstep
  subst hstep
  exact of_some rfl (inv.task_ne tx howner) hpublished (by simp [Pc.blocked])

theorem publishTask (inv : WakeInv w) (howner : w.client.owner = some tx)
    (hpc : tx.pc = .publishTask) (hstep : w.client.advance tx env = some s) :
    WakeInv { w with client := s } := by
  have hpublished := inv.published tx howner
  simp only [ClientState.Published, hpc] at hpublished
  simp only [ClientState.advance, hpc, Option.some.injEq] at hstep
  subst hstep
  exact of_some rfl (inv.task_ne tx howner) ⟨hpublished, rfl⟩ (by simp [Pc.blocked])

theorem publishMask (inv : WakeInv w) (howner : w.client.owner = some tx)
    (hpc : tx.pc = .publishMask) (hstep : w.client.advance tx env = some s) :
    WakeInv { w with client := s } := by
  have hpublished := inv.published tx howner
  simp only [ClientState.Published, hpc] at hpublished
  simp only [ClientState.advance, hpc, Option.some.injEq] at hstep
  subst hstep
  exact of_some rfl (inv.task_ne tx howner) ⟨hpublished.1, hpublished.2, rfl⟩ (by simp [Pc.blocked])

/-- The task looks into the used ring.  If it does not find its own answer it is going to block. -/
theorem attempt {n : ℕ} (inv : WakeInv w) (howner : w.client.owner = some tx)
    (hpc : tx.pc = .attempt (n + 1)) (hleft : NoneLeftBehind w (.client (.advance env)))
    (hstep : w.client.advance tx env = some s) : WakeInv { w with client := s } := by
  have htask := inv.task_ne tx howner
  have hpublished := inv.published tx howner
  simp only [ClientState.Published, hpc] at hpublished
  simp only [ClientState.advance, hpc, Option.some.injEq] at hstep
  subst hstep
  by_cases hown : (virtQueueGetBuf w.client.queue.vq).cookie = tx.task
  · exact of_quiet rfl htask (by simp [hown, Pc.awaits])
  refine of_some rfl htask ?_ fun _ => ?_
  · simpa only [ClientState.Published, ClientState.getBuf, hown, if_false] using hpublished
  · rcases hleft tx howner (by rw [hpc]; rfl) with hfirst | hone | hpending | hpending
    · exact absurd (getBuf_cookie_of_own hfirst) hown
    · exact Or.inl (usedEntry_get_eq_none hone)
    · exact Or.inr (Or.inl hpending)
    · exact Or.inr (Or.inr hpending)

/-- The task has been woken, and takes the signal. -/
theorem wait {n : ℕ} (inv : WakeInv w) (howner : w.client.owner = some tx)
    (hpc : tx.pc = .wait n) (hstep : w.client.advance tx env = some s) :
    WakeInv { w with client := s } := by
  have hpublished := inv.published tx howner
  simp only [ClientState.Published, hpc] at hpublished
  simp only [ClientState.advance, hpc] at hstep
  split at hstep
  · simp at hstep
  · obtain rfl := Option.some.inj hstep
    exact of_some rfl (inv.task_ne tx howner) hpublished (by simp [Pc.blocked])

theorem resetSignal {n : ℕ} (inv : WakeInv w) (howner : w.client.owner = some tx)
    (hpc : tx.pc = .resetSignal n) (hstep : w.client.advance tx env = some s) :
    WakeInv { w with client := s } := by
  have hpublished := inv.published tx howner
  simp only [ClientState.Published, hpc] at hpublished
  simp only [ClientState.advance, hpc, Option.some.injEq] at hstep
  subst hstep
  exact of_some rfl (inv.task_ne tx howner) hpublished (by simp [Pc.blocked])

/-- Without interrupts the task polls, and never blocks. -/
theorem poll {n : ℕ} (inv : WakeInv w) (howner : w.client.owner = some tx) (hpc : tx.pc = .poll n)
    (hstep : w.client.advance tx env = some s) : WakeInv { w with client := s } := by
  have htask := inv.task_ne tx howner
  cases n with
  | zero =>
      simp only [ClientState.advance, hpc, Option.some.injEq] at hstep
      subst hstep
      exact of_quiet rfl htask rfl
  | succ n =>
      simp only [ClientState.advance, hpc, Option.some.injEq] at hstep
      subst hstep
      refine of_quiet rfl htask ?_
      dsimp only
      split <;> rfl

theorem fill {rest : List DmaBuffer} (inv : WakeInv w) (howner : w.client.owner = some tx)
    (hpc : tx.pc = .fill rest) (hstep : w.client.advance tx env = some s) :
    WakeInv { w with client := s } := by
  have htask := inv.task_ne tx howner
  cases rest with
  | nil =>
      simp only [ClientState.advance, hpc, Option.some.injEq] at hstep
      subst hstep
      simp only [ClientState.addBuf]
      split
      · exact of_quiet rfl htask rfl
      · exact of_quiet rfl htask rfl
  | cons buffer rest =>
      simp only [ClientState.advance, hpc, Option.some.injEq] at hstep
      subst hstep
      exact of_quiet rfl htask rfl

theorem advance (inv : WakeInv w) (howner : w.client.owner = some tx)
    (hleft : NoneLeftBehind w (.client (.advance env)))
    (hstep : w.client.advance tx env = some s) : WakeInv { w with client := s } := by
  have htask := inv.task_ne tx howner
  cases hpc : tx.pc with
  | fill rest => exact inv.fill howner hpc hstep
  | enterWait => exact inv.enterWait howner hpc hstep
  | clearSignal => exact inv.clearSignal howner hpc hstep
  | publishTask => exact inv.publishTask howner hpc hstep
  | publishMask => exact inv.publishMask howner hpc hstep
  | attempt n =>
      cases n with
      | zero =>
          -- no attempts are left: a timeout
          simp only [ClientState.advance, hpc, Option.some.injEq] at hstep
          subst hstep
          exact of_quiet rfl htask rfl
      | succ n => exact inv.attempt howner hpc hleft hstep
  | wait n => exact inv.wait howner hpc hstep
  | resetSignal n => exact inv.resetSignal howner hpc hstep
  | poll n => exact inv.poll howner hpc hstep
  | predrain | drain drained | check =>
      simp only [ClientState.advance, hpc, Option.some.injEq] at hstep
      subst hstep
      refine of_quiet rfl htask ?_
      dsimp only
      split <;> rfl
  | retractMask | retractTask =>
      simp only [ClientState.advance, hpc, Option.some.injEq] at hstep
      subst hstep
      exact of_quiet rfl htask rfl
  | finish count =>
      simp only [ClientState.advance, hpc, Option.some.injEq] at hstep
      subst hstep
      exact of_none rfl

end Places

/-- A step of another party that leaves the task, the published fields and the signals alone, and
puts an entry into the used ring only together with an interrupt. -/
theorem of_frame (inv : WakeInv w) {s : ClientState} (howner : s.owner = w.client.owner)
    (hfields : s.waitTask = w.client.waitTask ∧ s.waitMask = w.client.waitMask)
    (hsignals : s.signals = w.client.signals)
    (hused : s.isr = true ∨ s.isr = w.client.isr ∧
      usedEntry s.queue.vq = usedEntry w.client.queue.vq) : WakeInv { w with client := s } := by
  refine ⟨fun tx h => inv.task_ne tx (howner ▸ h), fun tx h => ?_, fun tx h hblocked => ?_⟩
  · have hpublished := inv.published tx (howner ▸ h)
    simpa only [ClientState.Published, hfields.1, hfields.2] using hpublished
  · rcases hused with hisr | ⟨hisr, hentry⟩
    · exact Or.inr (Or.inr (Or.inl hisr))
    · have hawake := inv.awake tx (howner ▸ h) hblocked
      simpa only [WaitState.Awake, WaitState.SignalPending, WaitState.InterruptPending, hsignals,
        hisr, hentry] using hawake

/-- What a blocked task has published. -/
theorem published_of_blocked (inv : WakeInv w) (howner : w.client.owner = some tx)
    (hblocked : tx.pc.blocked = true) :
    tx.sigMask ≠ 0 ∧ w.client.waitTask = tx.task ∧ w.client.waitMask = tx.sigMask := by
  have hpublished := inv.published tx howner
  cases hpc : tx.pc <;> simp_all [Pc.blocked, ClientState.Published]

theorem handlerStep (inv : WakeInv w) {v : WaitState} (hstep : w.handlerStep = some v) :
    WakeInv v := by
  cases hpc : w.handler with
  | idle =>
      simp only [WaitState.handlerStep, hpc] at hstep
      split at hstep
      · obtain rfl := Option.some.inj hstep
        -- the handler has begun: it will reach every task that is published
        exact ⟨inv.task_ne, inv.published, fun tx _ _ => Or.inr (Or.inr (Or.inr rfl))⟩
      · simp at hstep
  | readTask =>
      simp only [WaitState.handlerStep, hpc, Option.some.injEq] at hstep
      subst hstep
      refine ⟨inv.task_ne, inv.published, fun tx h hblocked => Or.inr (Or.inr (Or.inr ?_))⟩
      simp [HandlerPc.reaches, (inv.published_of_blocked h hblocked).2.1]
  | readMask task =>
      simp only [WaitState.handlerStep, hpc, Option.some.injEq] at hstep
      subst hstep
      refine ⟨inv.task_ne, inv.published, fun tx h hblocked => ?_⟩
      rcases inv.awake tx h hblocked with hnone | hpending | hisr | hreaches
      · exact Or.inl hnone
      · exact Or.inr (Or.inl hpending)
      · exact Or.inr (Or.inr (Or.inl hisr))
      · -- it has read the task, and finds the mask that belongs to it
        have hmask := (inv.published_of_blocked h hblocked).2.2
        refine Or.inr (Or.inr (Or.inr ?_))
        simpa [HandlerPc.reaches, hpc, hmask] using hreaches
  | signal task mask =>
      simp only [WaitState.handlerStep, hpc] at hstep
      split at hstep
      · rename_i hnonzero
        obtain rfl := Option.some.inj hstep
        refine ⟨inv.task_ne, inv.published, fun tx h hblocked => ?_⟩
        have hmask := (inv.published_of_blocked h hblocked).1
        rcases inv.awake tx h hblocked with hnone | hpending | hisr | hreaches
        · exact Or.inl hnone
        · refine Or.inr (Or.inl ?_)
          simp only [WaitState.SignalPending, Function.update_apply] at hpending ⊢
          split
          · rename_i htask
            rw [← htask]
            exact or_and_ne_zero hpending
          · exact hpending
        · exact Or.inr (Or.inr (Or.inl hisr))
        · -- the handler signals this task
          simp only [hpc, HandlerPc.reaches, decide_eq_true_eq] at hreaches
          obtain ⟨rfl, rfl⟩ := hreaches
          refine Or.inr (Or.inl ?_)
          simp only [WaitState.SignalPending, Function.update_self]
          exact or_and_self_ne_zero hmask
      · rename_i hzero
        obtain rfl := Option.some.inj hstep
        refine ⟨inv.task_ne, inv.published, fun tx h hblocked => ?_⟩
        have hmask := (inv.published_of_blocked h hblocked).1
        rcases inv.awake tx h hblocked with hnone | hpending | hisr | hreaches
        · exact Or.inl hnone
        · exact Or.inr (Or.inl hpending)
        · exact Or.inr (Or.inr (Or.inl hisr))
        · simp only [hpc, HandlerPc.reaches, decide_eq_true_eq] at hreaches
          obtain ⟨rfl, rfl⟩ := hreaches
          -- neither the task nor the mask of one that is blocked is 0
          exact absurd ⟨inv.task_ne tx h, hmask⟩ hzero

theorem step (inv : WakeInv w) {v : WaitState} {action : WaitAction}
    (hleft : NoneLeftBehind w action) (hstep : w.step action = some v) : WakeInv v := by
  cases action with
  | handler => exact inv.handlerStep hstep
  | client action =>
      cases action with
      | interrupt => simp [WaitState.step] at hstep
      | call task cmd =>
          obtain ⟨s, hcall, rfl⟩ := Option.map_eq_some_iff.mp hstep
          obtain ⟨-, htask, rfl⟩ := ClientState.call_cases hcall
          refine of_quiet rfl htask ?_
          cases cmd <;> rfl
      | advance env =>
          obtain ⟨s, hadvance, rfl⟩ := Option.map_eq_some_iff.mp hstep
          obtain ⟨tx, howner, hadvance⟩ := Option.bind_eq_some_iff.mp hadvance
          exact inv.advance howner hleft hadvance
      | fetch =>
          obtain ⟨s, hfetch, rfl⟩ := Option.map_eq_some_iff.mp hstep
          obtain ⟨queue, hqueue, rfl⟩ := Option.map_eq_some_iff.mp hfetch
          refine inv.of_frame rfl ⟨rfl, rfl⟩ rfl (Or.inr ⟨rfl, ?_⟩)
          simp only [Queue.fetch] at hqueue
          split at hqueue
          · simp at hqueue
          · obtain rfl := Option.some.inj hqueue
            rfl
      | complete k len =>
          obtain ⟨s, hcomplete, rfl⟩ := Option.map_eq_some_iff.mp hstep
          obtain ⟨queue, -, rfl⟩ := Option.map_eq_some_iff.mp hcomplete
          exact inv.of_frame rfl ⟨rfl, rfl⟩ rfl (Or.inl rfl)
      | otherQueue =>
          obtain rfl := Option.some.inj hstep
          exact inv.of_frame rfl ⟨rfl, rfl⟩ rfl (Or.inl rfl)

/-- A look that leaves an entry behind, with nothing about to wake the task, puts it to sleep. -/
theorem lost (inv : WakeInv w) {action : WaitAction} (hleft : ¬ NoneLeftBehind w action) :
    ∃ v, w.step action = some v ∧ ¬ v.NoLostWakeup := by
  cases action with
  | handler => exact absurd trivial hleft
  | client action =>
      cases action with
      | advance env =>
          simp only [NoneLeftBehind, not_forall, not_or] at hleft
          obtain ⟨tx, howner, hattempts, hfirst, hmore, hsignal, hinterrupt⟩ := hleft
          have howner' : w.client.owner = some tx := howner
          obtain ⟨n, hpc⟩ : ∃ n, tx.pc = .attempt (n + 1) := by
            cases hpc : tx.pc with
            | attempt n => cases n <;> simp_all [Pc.attempts]
            | _ => simp_all [Pc.attempts]
          have hcookie : (virtQueueGetBuf w.client.queue.vq).cookie ≠ tx.task :=
            fun hown => hfirst (own_of_getBuf_cookie (inv.task_ne tx howner) hown)
          refine ⟨{ w with client := w.client.getBuf tx fun cookie =>
            if cookie = tx.task then .retractMask else .wait n }, ?_, fun hnone => ?_⟩
          · simp [WaitState.step, ClientState.step, howner', ClientState.advance, hpc]
          · refine usedEntry_get_ne_none (not_le.mp hmore) (hnone _ rfl ?_ hsignal hinterrupt)
            simp [hcookie, Pc.blocked]
      | _ => exact absurd trivial hleft

end WakeInv

/-! ## Every run -/

/-- A run in which no look into the used ring leaves an entry behind, except for a task that is
about to be woken, is a run in which no task ever sleeps through an answer. -/
theorem no_lost_wakeup (channel : Channel) (dma : DmaBuffers) (irqInstalled : Bool)
    (queueSize : UInt32) (modern useEventIdx useIndirect : Bool) (actions : List WaitAction) :
    Machine.Within WaitState.step NoneLeftBehind (WaitState.initial channel dma irqInstalled
      (Queue.initial queueSize modern useEventIdx useIndirect)) actions ↔
    Machine.Always WaitState.step WaitState.NoLostWakeup (WaitState.initial channel dma
      irqInstalled (Queue.initial queueSize modern useEventIdx useIndirect)) actions := by
  refine Machine.within_iff_always (I := WakeInv) (fun w inv => ?_)
    (fun w action v inv => inv.step) (fun w action inv => inv.lost) actions (WakeInv.of_none rfl)
  intro tx howner hblocked hsignal hinterrupt
  rcases inv.awake tx howner hblocked with hnone | hpending | hpending
  · exact hnone
  · exact absurd hpending hsignal
  · exact absurd hpending hinterrupt

/-- The steps of the tasks and of the device, while the handler does not run. -/
theorem run_client {w : WaitState} {t : ClientState} {actions : List ClientAction}
    (hactions : .interrupt ∉ actions)
    (hrun : Machine.run ClientState.step w.client actions = some t) :
    Machine.run WaitState.step w (actions.map .client) = some { w with client := t } := by
  induction actions generalizing w with
  | nil =>
      obtain rfl : w.client = t := by simpa using hrun
      rfl
  | cons action rest ih =>
      obtain ⟨u, hstep, hrest⟩ := Machine.run_cons_eq_some.mp hrun
      rw [List.map_cons, Machine.run_cons_eq_some]
      refine ⟨{ w with client := u }, ?_,
        ih (w := { w with client := u }) (fun h => hactions (List.mem_cons_of_mem _ h)) hrest⟩
      cases action with
      | interrupt => exact absurd (List.mem_cons_self ..) hactions
      | _ => simp only [WaitState.step, hstep, Option.map_some]

/-- Signal bit 16. -/
def signalBit16 : ExecEnv := ⟨some 16, ⟨0, 0, 0, 0⟩⟩

/-- Task 100 had no free signal bit and gave up.  The device completes its request and that of
task 200 before task 200 has published itself: the one look takes the stale entry. -/
theorem wakeup_lost :
    ¬ Machine.Always WaitState.step WaitState.NoLostWakeup
      (WaitState.initial .ctrlq sampleDma true (Queue.initial 4 true false false))
      ((unansweredCall 100 (.doIo 24 24) noSignal sampleDma).map .client ++
        ([.call 200 (.doIo 24 24), .advance signalBit16, .advance signalBit16,
          .advance signalBit16, .fetch, .fetch, .complete 0 24, .complete 0 24].map .client ++
          List.replicate 4 .handler ++ List.replicate 5 (.client (.advance signalBit16)))) := by
  intro halways
  have hunanswered : Machine.run ClientState.step
      (ClientState.initial .ctrlq sampleDma true (Queue.initial 4 true false false))
      (unansweredCall 100 (.doIo 24 24) noSignal sampleDma) = some _ :=
    unansweredCall_run rfl (by decide) rfl rfl (Or.inr rfl) (by decide) (by decide)
  have hlate := Machine.always_append_right halways
    (run_client (by simp [unansweredCall]) hunanswered)
  exact absurd hlate (by decide)

end VirtIOGPU
