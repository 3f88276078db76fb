import Mathlib.Data.Nat.Notation
import Mathlib.Logic.Function.Basic
import VirtIOGPU.Lib.Machine
import VirtIOGPU.Lib.LongWord

/-!
# The vertical-sync rendezvous

`chip_WaitVerticalSync` registers the calling task in one slot and blocks; on its next
tick the flush task takes the registration out of the slot and signals the task.  Both
sides use the slot under `vsync_mutex`, one access at a step here, and any number of tasks
may be in the call.

A second task that registers before the tick replaces the first one, whose signal then
never comes: `waiter_overwritten`.  `nobody_lost` shows that nothing else can go wrong.  As
long as no registration replaces that of a task that still sleeps, every sleeping task is
registered or about to be signalled, and the first tick that starts after it went to sleep
wakes it.

## Strategy

The invariant says of every task what it knows at its place in the code (`CallInv`), and of the
tick what it has read (`Snapshot`).  Who holds the mutex is the only one that can use the slot, so
a step of one party leaves what the others know: `VsyncInv.of_task` for a task, `VsyncInv.of_flush`
for the tick.  With these there is one lemma for each place.

```text
place of a task              slot               the task afterwards
publishTask, publishMask     gets the task      still awake
release                      stays              asleep and registered
wait                         stays              awake, once it is signalled
retractTask, retractMask     is cleared         awake

place of the tick            slot               a sleeping task
clearTask, clearMask         is cleared         registered before, taken now
signal                       stays              taken before, awake now
```
-/

namespace VirtIOGPU

open Lib Lib.SignalMask

/-! ## State -/

/-- A task in `chip_WaitVerticalSync`. -/
inductive VsyncPc where
  | idle
  /-- `AllocSignal`. -/
  | allocSignal
  | obtain
  | publishTask
  | publishMask
  | release
  /-- `Wait(sig_mask)`. -/
  | wait
  | obtainAgain
  /-- `wait_vsync_task == me`? -/
  | checkSlot
  | retractTask
  | retractMask
  | releaseAgain
  | freeSignal
  deriving DecidableEq, Repr

/-- The tick of the flush task, with its locals `vt` and `vm`. -/
inductive TickPc where
  | idle
  | obtain
  | readTask
  | readMask (vt : UInt32)
  | clearTask (vt vm : UInt32)
  | clearMask (vt vm : UInt32)
  | release (vt vm : UInt32)
  | signal (vt vm : UInt32)
  deriving DecidableEq, Repr

inductive VsyncHolder where
  | task (task : UInt32)
  | flush
  deriving DecidableEq, Repr

/-- The call of one task.  `since` is the number of ticks that had begun when it went to sleep;
it is written for statements only. -/
structure VsyncCall where
  pc : VsyncPc
  sigMask : UInt32
  since : ℕ
  deriving DecidableEq, Repr

structure VsyncState where
  /-- `flush_task` is set. -/
  flushTask : Bool
  /-- `vsync_mutex` was allocated. -/
  vsyncMutex : Bool
  holder : Option VsyncHolder
  waitVsyncTask : UInt32
  waitVsyncMask : UInt32
  /-- The call of every task, by its address. -/
  calls : UInt32 → VsyncCall
  /-- The received signals of every task. -/
  signals : UInt32 → UInt32
  flush : TickPc
  /-- The number of ticks that the flush task has completed. -/
  ticks : ℕ

def VsyncState.initial (flushTask vsyncMutex : Bool) : VsyncState where
  flushTask := flushTask
  vsyncMutex := vsyncMutex
  holder := none
  waitVsyncTask := 0
  waitVsyncMask := 0
  calls := fun _ => ⟨.idle, 0, 0⟩
  signals := fun _ => 0
  flush := .idle
  ticks := 0

/-! ## Steps -/

/-- The task goes on at `pc`. -/
def VsyncState.goto (s : VsyncState) (me : UInt32) (pc : VsyncPc) : VsyncState :=
  { s with calls := Function.update s.calls me { s.calls me with pc := pc } }

/-- The number of ticks that have begun. -/
def VsyncState.begun (s : VsyncState) : ℕ :=
  if s.flush = .idle then s.ticks else s.ticks + 1

/-- The next step of a task in `chip_WaitVerticalSync`; `sigBit` is what `AllocSignal` gives. -/
def VsyncState.taskStep (s : VsyncState) (me : UInt32) (sigBit : Option UInt32) :
    Option VsyncState :=
  let mask := (s.calls me).sigMask
  match (s.calls me).pc with
  | .idle =>
      if me = 0 then none
      else if s.flushTask && s.vsyncMutex then some (s.goto me .allocSignal)
      else some s
  | .allocSignal =>
      match sigBit with
      | none => some (s.goto me .idle)
      | some bit =>
          some
            { s with
              calls := Function.update s.calls me
                { s.calls me with pc := .obtain, sigMask := 1 <<< bit }
              signals := Function.update s.signals me (s.signals me &&& ~~~(1 <<< bit)) }
  | .obtain =>
      if s.holder = none then some { s.goto me .publishTask with holder := some (.task me) }
      else none
  | .publishTask => some { s.goto me .publishMask with waitVsyncTask := me }
  | .publishMask => some { s.goto me .release with waitVsyncMask := mask }
  | .release =>
      some
        { s with
          holder := none
          calls := Function.update s.calls me { s.calls me with pc := .wait, since := s.begun } }
  | .wait =>
      if s.signals me &&& mask = 0 then none
      else
        some
          { s.goto me .obtainAgain with
            signals := Function.update s.signals me (s.signals me &&& ~~~mask) }
  | .obtainAgain =>
      if s.holder = none then some { s.goto me .checkSlot with holder := some (.task me) }
      else none
  | .checkSlot => some (s.goto me (if s.waitVsyncTask = me then .retractTask else .releaseAgain))
  | .retractTask => some { s.goto me .retractMask with waitVsyncTask := 0 }
  | .retractMask => some { s.goto me .releaseAgain with waitVsyncMask := 0 }
  | .releaseAgain => some { s.goto me .freeSignal with holder := none }
  | .freeSignal => some (s.goto me .idle)

/-- The next step of the flush task in its tick. -/
def VsyncState.flushStep (s : VsyncState) : Option VsyncState :=
  match s.flush with
  | .idle =>
      if s.waitVsyncTask ≠ 0 && s.vsyncMutex then some { s with flush := .obtain }
      else some { s with ticks := s.ticks + 1 }
  | .obtain =>
      if s.holder = none then some { s with holder := some .flush, flush := .readTask } else none
  | .readTask => some { s with flush := .readMask s.waitVsyncTask }
  | .readMask vt => some { s with flush := .clearTask vt s.waitVsyncMask }
  | .clearTask vt vm => some { s with waitVsyncTask := 0, flush := .clearMask vt vm }
  | .clearMask vt vm => some { s with waitVsyncMask := 0, flush := .release vt vm }
  | .release vt vm => some { s with holder := none, flush := .signal vt vm }
  | .signal vt vm =>
      some
        { s with
          signals :=
            if vt ≠ 0 ∧ vm ≠ 0 then Function.update s.signals vt (s.signals vt ||| vm)
            else s.signals
          flush := .idle
          ticks := s.ticks + 1 }

inductive VsyncAction where
  /-- A task enters the call or makes its next step in it. -/
  | task (me : UInt32) (sigBit : Option UInt32)
  | flush
  /-- Something else signals a task. -/
  | signal (task mask : UInt32)
  deriving DecidableEq, Repr

def VsyncState.step (s : VsyncState) : VsyncAction → Option VsyncState
  | .task me sigBit => s.taskStep me sigBit
  | .flush => s.flushStep
  | .signal task mask =>
      some { s with signals := Function.update s.signals task (s.signals task ||| mask) }

/-! ## Waiting and waking -/

/-- The task is blocked in `Wait`: no signal of its mask is pending. -/
def VsyncState.Sleeps (s : VsyncState) (task : UInt32) : Prop :=
  (s.calls task).pc = .wait ∧ s.signals task &&& (s.calls task).sigMask = 0

/-- The slot holds the task with the mask that it waits for. -/
def VsyncState.Registered (s : VsyncState) (task : UInt32) : Prop :=
  s.waitVsyncTask = task ∧ s.waitVsyncMask = (s.calls task).sigMask

/-- The tick under way has taken this registration and will signal it. -/
def TickPc.takes (task mask : UInt32) : TickPc → Bool
  | .clearMask vt vm | .release vt vm | .signal vt vm => decide (vt = task ∧ vm = mask)
  | _ => false

def VsyncState.Taken (s : VsyncState) (task : UInt32) : Prop :=
  s.flush.takes task (s.calls task).sigMask = true

/-- Every sleeping task is registered or has its signal on the way, and no tick that began
after it went to sleep has been completed. -/
def VsyncState.NobodyLost (s : VsyncState) : Prop :=
  ∀ task, s.Sleeps task →
    (s.Registered task ∨ s.Taken task) ∧ s.ticks ≤ (s.calls task).since

/-- A task that registers does not replace one that sleeps and has no signal on the way. -/
def ReplacesNoSleeper (s : VsyncState) : VsyncAction → Prop
  | .task me _ => (s.calls me).pc = .publishTask → s.Sleeps s.waitVsyncTask →
      s.Taken s.waitVsyncTask
  | _ => True

/-- Between two ticks nobody's signal is on the way. -/
theorem VsyncState.not_taken_of_idle {s : VsyncState} (hidle : s.flush = .idle) (task : UInt32) :
    ¬ s.Taken task := by
  simp [VsyncState.Taken, hidle, TickPc.takes]

/-! ## The invariant -/

/-- The places between `MutexObtain` and `MutexRelease`. -/
def VsyncPc.locked : VsyncPc → Bool
  | .publishTask | .publishMask | .release => true
  | .checkSlot | .retractTask | .retractMask | .releaseAgain => true
  | _ => false

def TickPc.locked : TickPc → Bool
  | .readTask | .readMask _ | .clearTask _ _ | .clearMask _ _ | .release _ _ => true
  | _ => false

/-- The tick has cleared the slot. -/
def TickPc.cleared : TickPc → Bool
  | .clearMask _ _ | .release _ _ | .signal _ _ => true
  | _ => false

/-- What a task that holds the mutex knows of the slot. -/
def VsyncState.SlotSeen (s : VsyncState) (task : UInt32) : Prop :=
  match (s.calls task).pc with
  | .publishMask | .retractTask => s.waitVsyncTask = task
  | .release => s.Registered task
  | .retractMask => s.waitVsyncTask = 0
  | _ => True

/-- What the tick knows of the slot. -/
def VsyncState.Snapshot (s : VsyncState) : Prop :=
  match s.flush with
  | .readMask vt => vt = s.waitVsyncTask
  | .clearTask vt vm => vt = s.waitVsyncTask ∧ vm = s.waitVsyncMask
  | .clearMask _ _ => s.waitVsyncTask = 0
  | _ => True

/-- The task will be woken in time. -/
structure VsyncState.Served (s : VsyncState) (task : UInt32) : Prop where
  found : s.Registered task ∨ s.Taken task
  ticks_le : s.ticks ≤ (s.calls task).since
  /-- A registration that the tick under way has not seen is not older than this tick. -/
  later : s.flush.cleared = true → s.Taken task ∨ s.ticks + 1 ≤ (s.calls task).since

structure CallInv (s : VsyncState) (task : UInt32) : Prop where
  task_ne : (s.calls task).pc ≠ .idle → task ≠ 0
  available : (s.calls task).pc ≠ .idle → s.vsyncMutex = true
  mask_ne : (s.calls task).pc ≠ .idle → (s.calls task).pc ≠ .allocSignal →
    (s.calls task).sigMask ≠ 0
  locked : (s.calls task).pc.locked = true → s.holder = some (.task task)
  slot : s.SlotSeen task
  served : s.Sleeps task → s.Served task

theorem CallInv.task_ne_of_wait {s : VsyncState} {task : UInt32} (inv : CallInv s task)
    (hpc : (s.calls task).pc = .wait) : task ≠ 0 :=
  inv.task_ne (by simp [hpc])

theorem CallInv.available_of_wait {s : VsyncState} {task : UInt32} (inv : CallInv s task)
    (hpc : (s.calls task).pc = .wait) : s.vsyncMutex = true :=
  inv.available (by simp [hpc])

theorem CallInv.mask_ne_of_wait {s : VsyncState} {task : UInt32} (inv : CallInv s task)
    (hpc : (s.calls task).pc = .wait) : (s.calls task).sigMask ≠ 0 :=
  inv.mask_ne (by simp [hpc]) (by simp [hpc])

structure VsyncInv (s : VsyncState) : Prop where
  call : ∀ task, CallInv s task
  flushLocked : s.flush.locked = true → s.holder = some .flush
  snapshot : s.Snapshot

theorem VsyncInv.initial (flushTask vsyncMutex : Bool) :
    VsyncInv (VsyncState.initial flushTask vsyncMutex) where
  call task :=
    { task_ne := fun h => absurd rfl h
      available := fun h => absurd rfl h
      mask_ne := fun h => absurd rfl h
      locked := by simp [VsyncState.initial, VsyncPc.locked]
      slot := trivial
      served := fun h => absurd h.1 (by simp [VsyncState.initial]) }
  flushLocked := by simp [VsyncState.initial, TickPc.locked]
  snapshot := trivial

theorem VsyncInv.nobodyLost {s : VsyncState} (inv : VsyncInv s) : s.NobodyLost := fun task h =>
  ⟨((inv.call task).served h).found, ((inv.call task).served h).ticks_le⟩

/-! ## Steps of a task -/

section Task

variable {s t : VsyncState} {me : UInt32} {call : VsyncCall}

/-- A step of one task leaves the others, and the tick, with what they know. -/
theorem VsyncInv.of_task (inv : VsyncInv s) (hcalls : t.calls = Function.update s.calls me call)
    (hflush : t.flush = s.flush) (hticks : t.ticks = s.ticks) (hmutex : t.vsyncMutex = s.vsyncMutex)
    (hsignals : ∀ task, task ≠ me → t.signals task = s.signals task)
    (hholder : ∀ holder, s.holder = some holder → holder ≠ .task me → t.holder = some holder)
    (hslot : s.holder ≠ some (.task me) →
      t.waitVsyncTask = s.waitVsyncTask ∧ t.waitVsyncMask = s.waitVsyncMask)
    (hkeep : ∀ task, task ≠ me → s.Sleeps task → s.Registered task →
      t.Registered task ∨ s.Taken task)
    (hself : CallInv t me) : VsyncInv t := by
  refine ⟨fun task => ?_, fun hlocked => ?_, ?_⟩
  · by_cases hme : task = me
    · exact hme ▸ hself
    have inv' := inv.call task
    have hcall : t.calls task = s.calls task := by rw [hcalls, Function.update_of_ne hme]
    have htaken : t.Taken task ↔ s.Taken task := by
      rw [VsyncState.Taken, VsyncState.Taken, hflush, hcall]
    refine ⟨?_, ?_, ?_, ?_, ?_, ?_⟩
    · rw [hcall]
      exact inv'.task_ne
    · rw [hcall, hmutex]
      exact inv'.available
    · rw [hcall]
      exact inv'.mask_ne
    · rw [hcall]
      intro hlocked
      exact hholder _ (inv'.locked hlocked) fun h => hme (VsyncHolder.task.inj h)
    · -- a task that knows something of the slot holds the mutex
      have hseen := inv'.slot
      by_cases hlocked : (s.calls task).pc.locked = true
      · have hother : s.holder ≠ some (.task me) := by
          rw [inv'.locked hlocked]
          exact fun h => hme (VsyncHolder.task.inj (Option.some.inj h))
        obtain ⟨htask, hmask⟩ := hslot hother
        simpa only [VsyncState.SlotSeen, VsyncState.Registered, hcall, htask, hmask] using hseen
      · cases hpc : (s.calls task).pc <;>
          simp_all [VsyncPc.locked, VsyncState.SlotSeen]
    · rintro ⟨hpc, hpending⟩
      rw [hcall] at hpc hpending
      rw [hsignals task hme] at hpending
      obtain ⟨hfound, hle, hlater⟩ := inv'.served ⟨hpc, hpending⟩
      refine ⟨?_, ?_, ?_⟩
      · rcases hfound with hregistered | h
        · exact (hkeep task hme ⟨hpc, hpending⟩ hregistered).imp_right htaken.mpr
        · exact Or.inr (htaken.mpr h)
      · rwa [hticks, hcall]
      · rw [hflush, hticks, hcall, htaken]
        exact hlater
  · rw [hflush] at hlocked
    exact hholder _ (inv.flushLocked hlocked) (by simp)
  · have hseen := inv.snapshot
    by_cases hlocked : s.flush.locked = true
    · have hother : s.holder ≠ some (.task me) := by
        rw [inv.flushLocked hlocked]
        simp
      obtain ⟨htask, hmask⟩ := hslot hother
      simpa only [VsyncState.Snapshot, hflush, htask, hmask] using hseen
    · cases hpc : s.flush <;> simp_all [TickPc.locked, VsyncState.Snapshot]

/-- The slot does not change. -/
theorem VsyncInv.of_quiet (inv : VsyncInv s) (hcalls : t.calls = Function.update s.calls me call)
    (hflush : t.flush = s.flush) (hticks : t.ticks = s.ticks) (hmutex : t.vsyncMutex = s.vsyncMutex)
    (hsignals : ∀ task, task ≠ me → t.signals task = s.signals task)
    (hholder : ∀ holder, s.holder = some holder → holder ≠ .task me → t.holder = some holder)
    (htask : t.waitVsyncTask = s.waitVsyncTask) (hmask : t.waitVsyncMask = s.waitVsyncMask)
    (hself : CallInv t me) : VsyncInv t := by
  refine inv.of_task hcalls hflush hticks hmutex hsignals hholder (fun _ => ⟨htask, hmask⟩) ?_ hself
  intro task hme _ hregistered
  left
  rwa [VsyncState.Registered, htask, hmask, hcalls, Function.update_of_ne hme]

/-- The step writes the slot: the task holds the mutex, and what it replaces is not needed. -/
theorem VsyncInv.of_write (inv : VsyncInv s) (hlocked : (s.calls me).pc.locked = true)
    (hcalls : t.calls = Function.update s.calls me call) (hflush : t.flush = s.flush)
    (hticks : t.ticks = s.ticks) (hmutex : t.vsyncMutex = s.vsyncMutex)
    (hsignals : t.signals = s.signals) (hholder : t.holder = s.holder)
    (hfree : ∀ task, task ≠ me → s.Sleeps task → s.Registered task → s.Taken task)
    (hself : CallInv t me) : VsyncInv t := by
  refine inv.of_task hcalls hflush hticks hmutex (fun _ _ => by rw [hsignals]) (fun h hh _ => ?_)
    (fun h => absurd ((inv.call me).locked hlocked) h) ?_ hself
  · rwa [hholder]
  · exact fun task hme hsleeps hregistered => Or.inr (hfree task hme hsleeps hregistered)

/-- Past the allocation of its signal, and not going to sleep. -/
theorem CallInv.next {pc : VsyncPc} (inv : CallInv s me) (hidle : (s.calls me).pc ≠ .idle)
    (hsignal : (s.calls me).pc ≠ .allocSignal)
    (hcalls : t.calls = Function.update s.calls me { s.calls me with pc := pc })
    (hmutex : t.vsyncMutex = s.vsyncMutex) (hwait : pc ≠ .wait)
    (hlocked : pc.locked = true → t.holder = some (.task me)) (hslot : t.SlotSeen me) :
    CallInv t me where
  task_ne _ := inv.task_ne hidle
  available _ := hmutex ▸ inv.available hidle
  mask_ne _ _ := by
    rw [hcalls, Function.update_self]
    exact inv.mask_ne hidle hsignal
  locked := by
    rw [hcalls, Function.update_self]
    exact hlocked
  slot := hslot
  served h := by
    have hpc := h.1
    rw [hcalls, Function.update_self] at hpc
    exact absurd hpc hwait

/-- Obtaining the mutex. -/
theorem VsyncInv.obtain {pc : VsyncPc} (inv : VsyncInv s) (hidle : (s.calls me).pc ≠ .idle)
    (hsignal : (s.calls me).pc ≠ .allocSignal) (hfree : s.holder = none) (hwait : pc ≠ .wait)
    (hslot : VsyncState.SlotSeen { s.goto me pc with holder := some (.task me) } me) :
    VsyncInv { s.goto me pc with holder := some (.task me) } := by
  refine inv.of_quiet rfl rfl rfl rfl (fun _ _ => rfl) (fun holder hholder _ => ?_) rfl rfl ?_
  · rw [hfree] at hholder
    simp at hholder
  · exact (inv.call me).next hidle hsignal rfl rfl hwait (fun _ => rfl) hslot

/-- Releasing the mutex. -/
theorem VsyncInv.free (inv : VsyncInv s) (hlocked : (s.calls me).pc.locked = true)
    (hcalls : t.calls = Function.update s.calls me call) (hflush : t.flush = s.flush)
    (hticks : t.ticks = s.ticks) (hmutex : t.vsyncMutex = s.vsyncMutex)
    (hsignals : t.signals = s.signals) (htask : t.waitVsyncTask = s.waitVsyncTask)
    (hmask : t.waitVsyncMask = s.waitVsyncMask) (hself : CallInv t me) : VsyncInv t := by
  refine inv.of_quiet hcalls hflush hticks hmutex (fun _ _ => by rw [hsignals])
    (fun holder hholder hother => ?_) htask hmask hself
  rw [(inv.call me).locked hlocked] at hholder
  exact absurd (Option.some.inj hholder).symm hother

/-- The task is not in the call, or has no signal yet. -/
theorem VsyncInv.outside {pc : VsyncPc} (inv : VsyncInv s) (hpc : pc = .idle ∨ pc = .allocSignal)
    (hme : me ≠ 0) (havailable : s.vsyncMutex = true) : VsyncInv (s.goto me pc) := by
  have hself : ((s.goto me pc).calls me).pc = pc := by simp [VsyncState.goto]
  refine inv.of_quiet rfl rfl rfl rfl (fun _ _ => rfl) (fun _ h _ => h) rfl rfl ?_
  rcases hpc with rfl | rfl
  · exact ⟨fun _ => hme, fun _ => havailable, fun hidle => absurd hself hidle,
      by simp [hself, VsyncPc.locked], by simp [hself, VsyncState.SlotSeen],
      by simp [hself, VsyncState.Sleeps]⟩
  · exact ⟨fun _ => hme, fun _ => havailable, fun _ hsignal => absurd hself hsignal,
      by simp [hself, VsyncPc.locked], by simp [hself, VsyncState.SlotSeen],
      by simp [hself, VsyncState.Sleeps]⟩

/-! One lemma for each place of the task.  The task writes the slot at `publishTask`, `publishMask`,
`retractTask` and `retractMask`, goes to sleep at `release`, and leaves the slot alone elsewhere. -/

section Places

variable {sigBit : Option UInt32}

theorem VsyncInv.enter (inv : VsyncInv s) (hpc : (s.calls me).pc = .idle)
    (hstep : s.taskStep me sigBit = some t) : VsyncInv t := by
  simp only [VsyncState.taskStep, hpc] at hstep
  split at hstep
  · simp at hstep
  · rename_i hme
    split at hstep
    · rename_i havailable
      obtain rfl := Option.some.inj hstep
      rw [Bool.and_eq_true] at havailable
      exact inv.outside (Or.inr rfl) hme havailable.2
    · obtain rfl := Option.some.inj hstep
      exact inv

theorem VsyncInv.allocSignal (inv : VsyncInv s) (hpc : (s.calls me).pc = .allocSignal)
    (hstep : s.taskStep me sigBit = some t) : VsyncInv t := by
  have hme := (inv.call me).task_ne (by simp [hpc])
  have havailable := (inv.call me).available (by simp [hpc])
  simp only [VsyncState.taskStep, hpc] at hstep
  split at hstep <;> obtain rfl := Option.some.inj hstep
  · exact inv.outside (Or.inl rfl) hme havailable
  · -- the mask of a signal is never zero
    refine inv.of_quiet rfl rfl rfl rfl (fun _ h => Function.update_of_ne h _ _)
      (fun _ h _ => h) rfl rfl ?_
    exact ⟨fun _ => hme, fun _ => havailable,
      fun _ _ => by simpa using shiftLeft_one_ne_zero _,
      by simp [VsyncPc.locked], by simp [VsyncState.SlotSeen], by simp [VsyncState.Sleeps]⟩

/-- The task waits for the mutex, before it registers or after it has been woken. -/
theorem VsyncInv.obtainMutex (inv : VsyncInv s)
    (hpc : (s.calls me).pc = .obtain ∨ (s.calls me).pc = .obtainAgain)
    (hstep : s.taskStep me sigBit = some t) : VsyncInv t := by
  rcases hpc with hpc | hpc <;> simp only [VsyncState.taskStep, hpc] at hstep <;> split at hstep
  · rename_i hfree
    obtain rfl := Option.some.inj hstep
    exact inv.obtain (by simp [hpc]) (by simp [hpc]) hfree (by simp)
      (by simp [VsyncState.goto, VsyncState.SlotSeen])
  · simp at hstep
  · rename_i hfree
    obtain rfl := Option.some.inj hstep
    exact inv.obtain (by simp [hpc]) (by simp [hpc]) hfree (by simp)
      (by simp [VsyncState.goto, VsyncState.SlotSeen])
  · simp at hstep

/-- Whoever is replaced does not sleep, or has its signal on the way. -/
theorem VsyncInv.publishTask (inv : VsyncInv s) (hpc : (s.calls me).pc = .publishTask)
    (hspares : s.Sleeps s.waitVsyncTask → s.Taken s.waitVsyncTask)
    (hstep : s.taskStep me sigBit = some t) : VsyncInv t := by
  simp only [VsyncState.taskStep, hpc, Option.some.injEq] at hstep
  subst hstep
  have hheld := (inv.call me).locked (by rw [hpc]; rfl)
  refine inv.of_write (by rw [hpc]; rfl) rfl rfl rfl rfl rfl rfl ?_ ?_
  · rintro task - hsleeps ⟨rfl, -⟩
    exact hspares hsleeps
  · exact (inv.call me).next (by simp [hpc]) (by simp [hpc]) rfl rfl (by simp) (fun _ => hheld)
      (by simp [VsyncState.goto, VsyncState.SlotSeen])

/-- The slot holds this task already, so that no other is replaced. -/
theorem VsyncInv.publishMask (inv : VsyncInv s) (hpc : (s.calls me).pc = .publishMask)
    (hstep : s.taskStep me sigBit = some t) : VsyncInv t := by
  simp only [VsyncState.taskStep, hpc, Option.some.injEq] at hstep
  subst hstep
  have hheld := (inv.call me).locked (by rw [hpc]; rfl)
  have hseen := (inv.call me).slot
  simp only [VsyncState.SlotSeen, hpc] at hseen
  refine inv.of_write (by rw [hpc]; rfl) rfl rfl rfl rfl rfl rfl ?_ ?_
  · rintro task hme - ⟨htask, -⟩
    exact absurd (htask.symm.trans hseen) hme
  · exact (inv.call me).next (by simp [hpc]) (by simp [hpc]) rfl rfl (by simp) (fun _ => hheld)
      (by simp [VsyncState.goto, VsyncState.SlotSeen, VsyncState.Registered, hseen])

/-- The task goes to sleep, registered and with its mask. -/
theorem VsyncInv.release (inv : VsyncInv s) (hpc : (s.calls me).pc = .release)
    (hstep : s.taskStep me sigBit = some t) : VsyncInv t := by
  simp only [VsyncState.taskStep, hpc, Option.some.injEq] at hstep
  subst hstep
  have self := inv.call me
  have hseen := self.slot
  simp only [VsyncState.SlotSeen, hpc] at hseen
  have hne : (s.calls me).pc ≠ .idle := by simp [hpc]
  refine inv.free (by rw [hpc]; rfl) rfl rfl rfl rfl rfl rfl rfl ?_
  refine ⟨fun _ => self.task_ne hne, fun _ => self.available hne, fun _ _ => ?_,
    by simp [VsyncPc.locked], by simp [VsyncState.SlotSeen], fun _ => ⟨Or.inl ?_, ?_, ?_⟩⟩
  · simpa using self.mask_ne hne (by simp [hpc])
  · simpa [VsyncState.Registered] using hseen
  · simp only [Function.update_self, VsyncState.begun]
    split <;> omega
  · -- the tick under way cleared the slot before this registration
    intro hcleared
    right
    have hbusy : s.flush ≠ .idle := by
      rintro hidle
      simp [hidle, TickPc.cleared] at hcleared
    simp only [Function.update_self, VsyncState.begun, if_neg hbusy, Nat.le_refl]

theorem VsyncInv.wait (inv : VsyncInv s) (hpc : (s.calls me).pc = .wait)
    (hstep : s.taskStep me sigBit = some t) : VsyncInv t := by
  simp only [VsyncState.taskStep, hpc] at hstep
  split at hstep
  · simp at hstep
  · obtain rfl := Option.some.inj hstep
    refine inv.of_quiet rfl rfl rfl rfl (fun _ h => Function.update_of_ne h _ _)
      (fun _ h _ => h) rfl rfl ?_
    exact (inv.call me).next (by simp [hpc]) (by simp [hpc]) rfl rfl (by simp)
      (by simp [VsyncPc.locked]) (by simp [VsyncState.goto, VsyncState.SlotSeen])

theorem VsyncInv.checkSlot (inv : VsyncInv s) (hpc : (s.calls me).pc = .checkSlot)
    (hstep : s.taskStep me sigBit = some t) : VsyncInv t := by
  simp only [VsyncState.taskStep, hpc, Option.some.injEq] at hstep
  subst hstep
  have hheld := (inv.call me).locked (by rw [hpc]; rfl)
  refine inv.of_quiet rfl rfl rfl rfl (fun _ _ => rfl) (fun _ h _ => h) rfl rfl ?_
  refine (inv.call me).next (by simp [hpc]) (by simp [hpc]) rfl rfl (by split <;> simp)
    (fun _ => hheld) ?_
  by_cases hmine : s.waitVsyncTask = me
  · simp [VsyncState.goto, VsyncState.SlotSeen, hmine]
  · simp [VsyncState.goto, VsyncState.SlotSeen, hmine]

/-- The registration of this task is taken back, and no other is lost by that. -/
theorem VsyncInv.retractTask (inv : VsyncInv s) (hpc : (s.calls me).pc = .retractTask)
    (hstep : s.taskStep me sigBit = some t) : VsyncInv t := by
  simp only [VsyncState.taskStep, hpc, Option.some.injEq] at hstep
  subst hstep
  have hheld := (inv.call me).locked (by rw [hpc]; rfl)
  have hseen := (inv.call me).slot
  simp only [VsyncState.SlotSeen, hpc] at hseen
  refine inv.of_write (by rw [hpc]; rfl) rfl rfl rfl rfl rfl rfl ?_ ?_
  · rintro task hme - ⟨htask, -⟩
    exact absurd (htask.symm.trans hseen) hme
  · exact (inv.call me).next (by simp [hpc]) (by simp [hpc]) rfl rfl (by simp) (fun _ => hheld)
      (by simp [VsyncState.goto, VsyncState.SlotSeen])

theorem VsyncInv.retractMask (inv : VsyncInv s) (hpc : (s.calls me).pc = .retractMask)
    (hstep : s.taskStep me sigBit = some t) : VsyncInv t := by
  simp only [VsyncState.taskStep, hpc, Option.some.injEq] at hstep
  subst hstep
  have hheld := (inv.call me).locked (by rw [hpc]; rfl)
  have hseen := (inv.call me).slot
  simp only [VsyncState.SlotSeen, hpc] at hseen
  refine inv.of_write (by rw [hpc]; rfl) rfl rfl rfl rfl rfl rfl ?_ ?_
  · -- the slot is empty, and nobody sleeps at address 0
    rintro task - hsleeps ⟨htask, -⟩
    exact absurd (htask.symm.trans hseen) ((inv.call task).task_ne_of_wait hsleeps.1)
  · exact (inv.call me).next (by simp [hpc]) (by simp [hpc]) rfl rfl (by simp) (fun _ => hheld)
      (by simp [VsyncState.goto, VsyncState.SlotSeen])

theorem VsyncInv.releaseAgain (inv : VsyncInv s) (hpc : (s.calls me).pc = .releaseAgain)
    (hstep : s.taskStep me sigBit = some t) : VsyncInv t := by
  simp only [VsyncState.taskStep, hpc, Option.some.injEq] at hstep
  subst hstep
  refine inv.free (by rw [hpc]; rfl) rfl rfl rfl rfl rfl rfl rfl ?_
  exact (inv.call me).next (by simp [hpc]) (by simp [hpc]) rfl rfl (by simp)
    (by simp [VsyncPc.locked]) (by simp [VsyncState.goto, VsyncState.SlotSeen])

theorem VsyncInv.freeSignal (inv : VsyncInv s) (hpc : (s.calls me).pc = .freeSignal)
    (hstep : s.taskStep me sigBit = some t) : VsyncInv t := by
  simp only [VsyncState.taskStep, hpc, Option.some.injEq] at hstep
  subst hstep
  have hne : (s.calls me).pc ≠ .idle := by simp [hpc]
  exact inv.outside (Or.inl rfl) ((inv.call me).task_ne hne) ((inv.call me).available hne)

theorem VsyncInv.taskStep (inv : VsyncInv s) (hspares : ReplacesNoSleeper s (.task me sigBit))
    (hstep : s.taskStep me sigBit = some t) : VsyncInv t := by
  cases hpc : (s.calls me).pc with
  | idle => exact inv.enter hpc hstep
  | allocSignal => exact inv.allocSignal hpc hstep
  | obtain => exact inv.obtainMutex (Or.inl hpc) hstep
  | publishTask => exact inv.publishTask hpc (hspares hpc) hstep
  | publishMask => exact inv.publishMask hpc hstep
  | release => exact inv.release hpc hstep
  | wait => exact inv.wait hpc hstep
  | obtainAgain => exact inv.obtainMutex (Or.inr hpc) hstep
  | checkSlot => exact inv.checkSlot hpc hstep
  | retractTask => exact inv.retractTask hpc hstep
  | retractMask => exact inv.retractMask hpc hstep
  | releaseAgain => exact inv.releaseAgain hpc hstep
  | freeSignal => exact inv.freeSignal hpc hstep

end Places

end Task

/-! ## Steps of the flush task -/

section Flush

variable {s t : VsyncState}

/-- A step of the flush task, or a signal from elsewhere, leaves every task where it is. -/
theorem VsyncInv.of_flush (inv : VsyncInv s) (hcalls : t.calls = s.calls)
    (hmutex : t.vsyncMutex = s.vsyncMutex)
    (hsignals : ∀ task mask, t.signals task &&& mask = 0 → s.signals task &&& mask = 0)
    (hholder : ∀ task, s.holder = some (.task task) → t.holder = some (.task task))
    (hslot : s.flush.locked = false →
      t.waitVsyncTask = s.waitVsyncTask ∧ t.waitVsyncMask = s.waitVsyncMask)
    (hlocked : t.flush.locked = true → t.holder = some .flush) (hsnapshot : t.Snapshot)
    (hserved : ∀ task, t.Sleeps task → s.Served task → t.Served task) : VsyncInv t := by
  refine ⟨fun task => ?_, hlocked, hsnapshot⟩
  have inv' := inv.call task
  refine ⟨?_, ?_, ?_, ?_, ?_, ?_⟩
  · rw [hcalls]
    exact inv'.task_ne
  · rw [hcalls, hmutex]
    exact inv'.available
  · rw [hcalls]
    exact inv'.mask_ne
  · rw [hcalls]
    exact fun h => hholder task (inv'.locked h)
  · have hseen := inv'.slot
    by_cases hplace : (s.calls task).pc.locked = true
    · have hoff : s.flush.locked = false := by
        refine Bool.eq_false_iff.mpr fun hflush => ?_
        have hheld := inv.flushLocked hflush
        rw [inv'.locked hplace] at hheld
        simp at hheld
      obtain ⟨htask, hmask⟩ := hslot hoff
      simpa only [VsyncState.SlotSeen, VsyncState.Registered, hcalls, htask, hmask] using hseen
    · cases hpc : (s.calls task).pc <;> simp_all [VsyncPc.locked, VsyncState.SlotSeen]
  · intro hsleeps
    refine hserved task hsleeps (inv'.served ⟨?_, ?_⟩)
    · exact hcalls ▸ hsleeps.1
    · exact hsignals _ _ (hcalls ▸ hsleeps.2)

theorem TickPc.cleared_of_takes {pc : TickPc} {task mask : UInt32}
    (h : pc.takes task mask = true) : pc.cleared = true := by
  cases pc <;> simp_all [TickPc.takes, TickPc.cleared]

/-- The tick goes on before it clears the slot. -/
theorem VsyncInv.of_tick {pc : TickPc} (inv : VsyncInv s) (hpc : s.flush.cleared = false)
    (hlocked : pc.locked = true → s.holder = some .flush)
    (hsnapshot : VsyncState.Snapshot { s with flush := pc }) (hcleared : pc.cleared = false) :
    VsyncInv { s with flush := pc } := by
  refine inv.of_flush rfl rfl (fun _ _ h => h) (fun _ h => h) (fun _ => ⟨rfl, rfl⟩) hlocked
    hsnapshot fun task _ hserved => ?_
  obtain ⟨hregistered | htaken, hle, -⟩ := hserved
  · exact ⟨Or.inl hregistered, hle, by simp [hcleared]⟩
  · rw [TickPc.cleared_of_takes htaken] at hpc
    simp at hpc

/-- Nobody sleeps at address 0, so an empty slot registers nobody. -/
theorem VsyncInv.not_registered (inv : VsyncInv s) {task : UInt32}
    (hpc : (s.calls task).pc = .wait) (hempty : s.waitVsyncTask = 0) : ¬ s.Registered task := by
  rintro ⟨htask, -⟩
  exact (inv.call task).task_ne_of_wait hpc (htask.symm.trans hempty)

/-! One lemma for each place of the tick at which a task changes from registered to signalled.  What
the tick has read is the slot until it clears it (`Snapshot`), and from then on the registration is
one that it takes. -/

theorem VsyncInv.tickIdle (inv : VsyncInv s) (hpc : s.flush = .idle)
    (hstep : s.flushStep = some t) : VsyncInv t := by
  have hlocked := inv.flushLocked
  simp only [VsyncState.flushStep, hpc] at hstep
  split at hstep
  · obtain rfl := Option.some.inj hstep
    exact inv.of_tick (by simp [hpc, TickPc.cleared]) (by simp [TickPc.locked]) trivial rfl
  · -- nobody sleeps when the slot is empty
    rename_i hempty
    obtain rfl := Option.some.inj hstep
    rw [hpc] at hlocked
    refine inv.of_flush rfl rfl (fun _ _ h => h) (fun _ h => h) (fun _ => ⟨rfl, rfl⟩) hlocked
      trivial fun task hsleeps hserved => ?_
    have hregistered := hserved.found.resolve_right (VsyncState.not_taken_of_idle hpc task)
    have havailable := (inv.call task).available_of_wait hsleeps.1
    have hzero : s.waitVsyncTask = 0 := by
      rw [havailable, Bool.and_true, decide_eq_true_eq, not_not] at hempty
      exact hempty
    exact absurd hregistered (inv.not_registered hsleeps.1 hzero)

theorem VsyncInv.tickObtain (inv : VsyncInv s) (hpc : s.flush = .obtain)
    (hstep : s.flushStep = some t) : VsyncInv t := by
  simp only [VsyncState.flushStep, hpc] at hstep
  split at hstep
  · rename_i hfree
    obtain rfl := Option.some.inj hstep
    refine inv.of_flush rfl rfl (fun _ _ h => h) (by simp [hfree]) (fun _ => ⟨rfl, rfl⟩)
      (fun _ => rfl) trivial fun task _ hserved => ?_
    obtain ⟨hregistered | htaken, hle, -⟩ := hserved
    · exact ⟨Or.inl hregistered, hle, by simp [TickPc.cleared]⟩
    · simp [VsyncState.Taken, hpc, TickPc.takes] at htaken
  · simp at hstep

/-- Whoever was registered is taken now: the tick has read this registration. -/
theorem VsyncInv.tickClearTask {vt vm : UInt32} (inv : VsyncInv s)
    (hpc : s.flush = .clearTask vt vm)
    (hstep : s.flushStep = some t) : VsyncInv t := by
  simp only [VsyncState.flushStep, hpc, Option.some.injEq] at hstep
  subst hstep
  have hheld := inv.flushLocked (by rw [hpc]; rfl)
  have hseen := inv.snapshot
  simp only [VsyncState.Snapshot, hpc] at hseen
  refine inv.of_flush rfl rfl (fun _ _ h => h) (fun _ h => h) (by simp [hpc, TickPc.locked])
    (fun _ => hheld) rfl fun task _ hserved => ?_
  obtain ⟨⟨htask, hmask⟩ | htaken, hle, -⟩ := hserved
  · have htaken : VsyncState.Taken { s with
        waitVsyncTask := 0, flush := .clearMask vt vm } task := by
      simp [VsyncState.Taken, TickPc.takes, hseen, htask, hmask]
    exact ⟨Or.inr htaken, hle, fun _ => Or.inl htaken⟩
  · simp [VsyncState.Taken, hpc, TickPc.takes] at htaken

theorem VsyncInv.tickClearMask {vt vm : UInt32} (inv : VsyncInv s)
    (hpc : s.flush = .clearMask vt vm)
    (hstep : s.flushStep = some t) : VsyncInv t := by
  simp only [VsyncState.flushStep, hpc, Option.some.injEq] at hstep
  subst hstep
  have hheld := inv.flushLocked (by rw [hpc]; rfl)
  have hempty := inv.snapshot
  simp only [VsyncState.Snapshot, hpc] at hempty
  refine inv.of_flush rfl rfl (fun _ _ h => h) (fun _ h => h) (by simp [hpc, TickPc.locked])
    (fun _ => hheld) trivial fun task hsleeps hserved => ?_
  have htaken : s.Taken task := hserved.found.resolve_left (inv.not_registered hsleeps.1 hempty)
  simp only [VsyncState.Taken, hpc] at htaken
  exact ⟨Or.inr htaken, hserved.ticks_le, fun _ => Or.inl htaken⟩

theorem VsyncInv.tickRelease {vt vm : UInt32} (inv : VsyncInv s) (hpc : s.flush = .release vt vm)
    (hstep : s.flushStep = some t) : VsyncInv t := by
  simp only [VsyncState.flushStep, hpc, Option.some.injEq] at hstep
  subst hstep
  refine inv.of_flush rfl rfl (fun _ _ h => h) ?_ (fun _ => ⟨rfl, rfl⟩)
    (by simp [TickPc.locked]) trivial fun task _ hserved => ?_
  · rw [inv.flushLocked (by rw [hpc]; rfl)]
    simp
  · obtain ⟨hfound, hle, hlater⟩ := hserved
    simp only [VsyncState.Taken, hpc] at hfound hlater
    exact ⟨hfound, hle, hlater⟩

/-- A task that the tick signals sleeps no longer. -/
theorem VsyncInv.tickSignal {vt vm : UInt32} (inv : VsyncInv s) (hpc : s.flush = .signal vt vm)
    (hstep : s.flushStep = some t) : VsyncInv t := by
  simp only [VsyncState.flushStep, hpc, Option.some.injEq] at hstep
  subst hstep
  refine inv.of_flush rfl rfl (fun task mask h => ?_) (fun _ h => h) (fun _ => ⟨rfl, rfl⟩)
    (by simp [TickPc.locked]) trivial fun task hsleeps hserved => ?_
  · -- no signal is taken away
    by_contra hpending
    refine absurd h ?_
    simp only
    split
    · by_cases htask : task = vt
      · rw [htask, Function.update_self]
        exact or_and_ne_zero (htask ▸ hpending)
      · rwa [Function.update_of_ne htask]
    · exact hpending
  · have htaken : ¬ s.Taken task := by
      intro htaken
      simp only [VsyncState.Taken, hpc, TickPc.takes, decide_eq_true_eq] at htaken
      obtain ⟨rfl, rfl⟩ := htaken
      have hne := (inv.call vt).task_ne_of_wait hsleeps.1
      have hmask := (inv.call vt).mask_ne_of_wait hsleeps.1
      have hpending := hsleeps.2
      simp only [hne, hmask, ne_eq, not_false_eq_true, and_self, if_true,
        Function.update_self] at hpending
      exact or_and_self_ne_zero hmask hpending
    have hlater := hserved.later (by simp [hpc, TickPc.cleared])
    exact ⟨Or.inl (hserved.found.resolve_right htaken), hlater.resolve_left htaken,
      by simp [TickPc.cleared]⟩

theorem VsyncInv.flushStep (inv : VsyncInv s) (hstep : s.flushStep = some t) : VsyncInv t := by
  have hseen := inv.snapshot
  cases hpc : s.flush with
  | idle => exact inv.tickIdle hpc hstep
  | obtain => exact inv.tickObtain hpc hstep
  | readTask =>
      simp only [VsyncState.flushStep, hpc, Option.some.injEq] at hstep
      subst hstep
      have hheld := inv.flushLocked (by rw [hpc]; rfl)
      exact inv.of_tick (by simp [hpc, TickPc.cleared]) (fun _ => hheld) rfl rfl
  | readMask vt =>
      simp only [VsyncState.flushStep, hpc, Option.some.injEq] at hstep
      subst hstep
      have hheld := inv.flushLocked (by rw [hpc]; rfl)
      simp only [VsyncState.Snapshot, hpc] at hseen
      exact inv.of_tick (by simp [hpc, TickPc.cleared]) (fun _ => hheld) ⟨hseen, rfl⟩ rfl
  | clearTask vt vm => exact inv.tickClearTask hpc hstep
  | clearMask vt vm => exact inv.tickClearMask hpc hstep
  | release vt vm => exact inv.tickRelease hpc hstep
  | signal vt vm => exact inv.tickSignal hpc hstep

/-- A signal from elsewhere. -/
theorem VsyncInv.signal (inv : VsyncInv s) (task mask : UInt32) :
    VsyncInv { s with
      signals := Function.update s.signals task (s.signals task ||| mask) } := by
  refine inv.of_flush rfl rfl (fun other mask' h => ?_) (fun _ h => h) (fun _ => ⟨rfl, rfl⟩)
    inv.flushLocked inv.snapshot fun other _ hserved => ?_
  · by_contra hpending
    refine absurd h ?_
    by_cases hother : other = task
    · simp only [hother, Function.update_self]
      exact or_and_ne_zero (hother ▸ hpending)
    · simpa only [Function.update_of_ne hother] using hpending
  · exact ⟨hserved.found, hserved.ticks_le, hserved.later⟩

end Flush

theorem VsyncInv.step {s t : VsyncState} {action : VsyncAction} (inv : VsyncInv s)
    (hspares : ReplacesNoSleeper s action) (hstep : s.step action = some t) : VsyncInv t := by
  cases action with
  | task me sigBit => exact inv.taskStep hspares hstep
  | flush => exact inv.flushStep hstep
  | signal task mask =>
      obtain rfl := Option.some.inj hstep
      exact inv.signal task mask

/-! ## Every run -/

/-- A registration that replaces a sleeping task loses it at once. -/
theorem lost_of_replaced {s : VsyncState} {action : VsyncAction}
    (hreplaced : ¬ ReplacesNoSleeper s action) : ∃ t, s.step action = some t ∧ ¬ t.NobodyLost := by
  cases action with
  | flush => exact absurd trivial hreplaced
  | signal task mask => exact absurd trivial hreplaced
  | task me sigBit =>
      simp only [ReplacesNoSleeper, Classical.not_imp] at hreplaced
      obtain ⟨hpc, hsleeps, htaken⟩ := hreplaced
      refine ⟨{ s.goto me .publishMask with waitVsyncTask := me }, ?_, fun hnobody => ?_⟩
      · simp only [VsyncState.step, VsyncState.taskStep, hpc]
      have hother : s.waitVsyncTask ≠ me := by
        intro hme
        rw [hme] at hsleeps
        exact absurd (hpc.symm.trans hsleeps.1) (by decide)
      obtain ⟨⟨hme, -⟩ | h, -⟩ := hnobody s.waitVsyncTask
        (by simpa only [VsyncState.Sleeps, VsyncState.goto, Function.update_of_ne hother] using
          hsleeps)
      · exact hother hme.symm
      · refine htaken ?_
        simpa only [VsyncState.Taken, VsyncState.goto, Function.update_of_ne hother] using h

/-- With any number of tasks in the call, the runs in which no registration replaces that of a
sleeping task are those in which every sleeping task is registered or about to be signalled, and
is woken by the first tick that begins after it went to sleep. -/
theorem nobody_lost (flushTask vsyncMutex : Bool) (actions : List VsyncAction) :
    Machine.Within VsyncState.step ReplacesNoSleeper (VsyncState.initial flushTask vsyncMutex)
        actions ↔
      Machine.Always VsyncState.step VsyncState.NobodyLost
        (VsyncState.initial flushTask vsyncMutex) actions := by
  refine Machine.within_iff_always (I := VsyncInv) ?_ ?_ ?_ actions
    (VsyncInv.initial flushTask vsyncMutex)
  · exact fun s inv => inv.nobodyLost
  · exact fun s action t inv hspares hstep => inv.step hspares hstep
  · exact fun s action _ hreplaced => lost_of_replaced hreplaced

/-- A task goes through the call until it waits. -/
def goesToSleep (me bit : UInt32) : List VsyncAction :=
  List.replicate 6 (.task me (some bit))

/-- Two tasks wait for the same tick. -/
theorem waiter_overwritten :
    ¬ Machine.Always VsyncState.step VsyncState.NobodyLost (VsyncState.initial true true)
      (goesToSleep 100 16 ++ goesToSleep 200 17) := by
  intro halways
  obtain ⟨s, hrun, hsleeps, hregistered, htaken⟩ : ∃ s, Machine.run VsyncState.step
      (VsyncState.initial true true) (goesToSleep 100 16 ++ goesToSleep 200 17) = some s ∧
        s.Sleeps 100 ∧ ¬ s.Registered 100 ∧ ¬ s.Taken 100 :=
    ⟨_, rfl, ⟨rfl, by decide⟩, fun h => absurd h.1 (by decide), by
      rw [VsyncState.Taken]
      decide⟩
  have hlast := Machine.always_last halways hrun
  exact (hlast 100 hsleeps).1.elim hregistered htaken

end VirtIOGPU
