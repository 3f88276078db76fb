import Mathlib.Data.Nat.Notation
import Mathlib.Logic.Function.Basic
import VirtIOGPU.Lib.Machine

/-!
# The loop of the flush task

`chip_flush_task_entry` arms one timer request, waits for the timer, for an activity signal
or for Ctrl-C, and presents the whole frame.  Any number of other tasks call
`chip_flush_signal_activity`, on its own or as the last thing that `chip_SetDPMSLevel` does
when it turns the display on; every access to what they share is a step of its own.

`flush_discipline` is about every interleaving.  The request is sent only while the task owns
it, and its reply is taken before the port goes, because `timer_pending` says after every
step whether the request is out.  And no signal is lost: a signal that the task has not
answered yet is still pending, or the task is on its way to `chip_flush_all`, or the display
is off, or the call that turned it on has its own signal still to send.

## Strategy

Three invariants, each about one thing that is shared, and each kept by every step of every party.

```text
invariant    says                                     needs
RequestInv   where the timer request is               the place of the task
PublishInv   what the callers find and have read      the places of the task and of the callers
SignalInv    what is still to be done for the latest  PublishInv: in the loop a call that has
             signal                                   begun finds the task and signals it
```

`RequestInv` has one lemma for each place of the task that has to do with the request.  `SignalInv`
speaks of the history of events: it begins with a signal only while that signal is not answered, and
this is what is read off at the end of a run (`FlushLoop.presented_of_head`).
-/

namespace VirtIOGPU

open Lib

/-! ## State -/

/-- The place of the flush task in `chip_flush_task_entry`. -/
inductive LoopPc where
  /-- `AllocSysObjectTags(ASOT_PORT)`. -/
  | allocPort
  | allocRequest
  | openDevice
  | allocSignal
  /-- `gs->flush_task = FindTask(NULL)`. -/
  | publishTask
  | publishMask
  /-- `while (!gs->flush_task_quit)`. -/
  | readQuit
  /-- `SendIO`, unless `timer_pending`. -/
  | arm
  | wait
  /-- `if (gs->flush_task_quit) break`, with `was_timer` and `was_signal`. -/
  | readQuitAgain (wasTimer wasSignal : Bool)
  | getMsg (wasTimer wasSignal : Bool)
  /-- `SetSignal(0, flush_sig)`. -/
  | clearSignal (wasSignal : Bool)
  | readDpms
  /-- What the body does before it calls `chip_flush_all`. -/
  | tick
  | enterFlush
  /-- `chip_flush_all` and the rest of the body. -/
  | flush
  /-- `WaitIO`, if `timer_pending`. -/
  | waitRequest
  | clearMask
  | clearTask
  | freeSignal
  /-- `FreeSysObject(ASOT_PORT, port)`, after the device and the request. -/
  | freePort
  | done
  deriving DecidableEq, Repr

/-- A task in `chip_flush_signal_activity`.  The arguments of `Signal` are read once more after
the check, in an order that is up to the compiler. -/
inductive SignalPc where
  | readTask
  | readMask
  | args (task mask : Option Bool)
  deriving DecidableEq, Repr

/-- A task in `chip_SetDPMSLevel`. -/
inductive DpmsPc where
  /-- `gs->dpms_level = level`. -/
  | write
  /-- `chip_SetScanout`. -/
  | setScanout
  | signal (pc : SignalPc)
  deriving DecidableEq, Repr

inductive CallerPc where
  | idle
  | activity (pc : SignalPc)
  | dpms (level : UInt32) (pc : DpmsPc)
  deriving DecidableEq, Repr

/-- Where the timer request is. -/
inductive TimerRequest where
  /-- With the flush task. -/
  | owned
  /-- Sent to `timer.device`. -/
  | running
  /-- In the reply port. -/
  | replied
  deriving DecidableEq, Repr

/-- What the history of a run records. -/
inductive LoopEvent where
  /-- An activity signal was delivered to the task. -/
  | signalled
  /-- `chip_flush_all` was entered. -/
  | entered
  deriving DecidableEq, Repr

/-- The state of the task and of those who signal it.  `AllocSysObject` and `AllocSignal` give
bits that the task does not use, so the three signals of `wait_mask` are three flags.  The last
three fields are written for statements only. -/
structure FlushLoop where
  pc : LoopPc
  timerPending : Bool
  timer : TimerRequest
  /-- `flush_sig` is set in the received signals of the task. -/
  activitySignal : Bool
  timerSignal : Bool
  ctrlC : Bool
  /-- `flush_task` is not `NULL`. -/
  flushTask : Bool
  /-- `flush_sig_mask` is not zero. -/
  flushSigMask : Bool
  flushTaskQuit : Bool
  dpmsLevel : UInt32
  callers : ℕ → CallerPc
  /-- The request was sent while it was out. -/
  sentTwice : Bool
  /-- The port was freed while the request was out or its reply not taken. -/
  freedEarly : Bool
  /-- The latest event first. -/
  history : List LoopEvent

/-- Before the task starts. -/
def FlushLoop.initial : FlushLoop where
  pc := .allocPort
  timerPending := false
  timer := .owned
  activitySignal := false
  timerSignal := false
  ctrlC := false
  flushTask := false
  flushSigMask := false
  flushTaskQuit := false
  dpmsLevel := 0
  callers := fun _ => .idle
  sentTwice := false
  freedEarly := false
  history := []

/-! ## Steps -/

/-- The next step of the flush task; `ok` is the answer of an allocation or of `OpenDevice`. -/
def FlushLoop.flushStep (s : FlushLoop) (ok : Bool) : Option FlushLoop :=
  match s.pc with
  | .allocPort => some { s with pc := if ok then .allocRequest else .done }
  | .allocRequest => some { s with pc := if ok then .openDevice else .freePort }
  | .openDevice => some { s with pc := if ok then .allocSignal else .freePort }
  | .allocSignal =>
      if ok then some { s with pc := .publishTask, activitySignal := false }
      else some { s with pc := .freePort }
  | .publishTask => some { s with pc := .publishMask, flushTask := true }
  | .publishMask => some { s with pc := .readQuit, flushSigMask := true }
  | .readQuit => some { s with pc := if s.flushTaskQuit then .waitRequest else .arm }
  | .arm =>
      if s.timerPending then some { s with pc := .wait }
      else
        some
          { s with
            pc := .wait
            timerPending := true
            timer := .running
            sentTwice := s.sentTwice || decide (s.timer ≠ .owned) }
  | .wait =>
      if s.activitySignal || s.timerSignal || s.ctrlC then
        some
          { s with
            pc := if s.ctrlC then .waitRequest else .readQuitAgain s.timerSignal s.activitySignal
            activitySignal := false
            timerSignal := false
            ctrlC := false }
      else none
  | .readQuitAgain wasTimer wasSignal =>
      some { s with pc := if s.flushTaskQuit then .waitRequest else .getMsg wasTimer wasSignal }
  | .getMsg wasTimer wasSignal =>
      if wasTimer then
        some
          { s with
            pc := .clearSignal wasSignal
            timerPending := false
            timer := if s.timer = .replied then .owned else s.timer }
      else some { s with pc := .clearSignal wasSignal }
  | .clearSignal wasSignal =>
      some { s with pc := .readDpms, activitySignal := !wasSignal && s.activitySignal }
  | .readDpms => some { s with pc := if s.dpmsLevel ≠ 0 then .readQuit else .tick }
  | .tick => some { s with pc := .enterFlush }
  | .enterFlush => some { s with pc := .flush, history := .entered :: s.history }
  | .flush => some { s with pc := .readQuit }
  | .waitRequest =>
      if s.timerPending then
        if s.timer = .running then none
        else some { s with pc := .clearMask, timer := .owned }
      else some { s with pc := .clearMask }
  | .clearMask => some { s with pc := .clearTask, flushSigMask := false }
  | .clearTask => some { s with pc := .freeSignal, flushTask := false }
  | .freeSignal => some { s with pc := .freePort }
  | .freePort =>
      some { s with pc := .done, freedEarly := s.freedEarly || decide (s.timer ≠ .owned) }
  | .done => none

/-- The caller goes on at `pc`. -/
def FlushLoop.goto (s : FlushLoop) (me : ℕ) (pc : CallerPc) : FlushLoop :=
  { s with callers := Function.update s.callers me pc }

theorem FlushLoop.goto_self (s : FlushLoop) (me : ℕ) (pc : CallerPc) :
    (s.goto me pc).callers me = pc :=
  Function.update_self ..

theorem FlushLoop.goto_of_ne (s : FlushLoop) {me other : ℕ} (pc : CallerPc) (h : other ≠ me) :
    (s.goto me pc).callers other = s.callers other :=
  Function.update_of_ne h ..

/-- `Signal(gs->flush_task, gs->flush_sig_mask)` with what the caller has read of the two. -/
def FlushLoop.deliver (s : FlushLoop) (task mask : Bool) : FlushLoop :=
  if task && mask then
    { s with activitySignal := true, history := .signalled :: s.history }
  else s

/-- A step in `chip_flush_signal_activity`, which the call returns from to `idle`. -/
def FlushLoop.signalStep (s : FlushLoop) (me : ℕ) (place : SignalPc → CallerPc) (taskFirst : Bool) :
    SignalPc → FlushLoop
  | .readTask => s.goto me (if s.flushTask then place .readMask else .idle)
  | .readMask => s.goto me (if s.flushSigMask then place (.args none none) else .idle)
  | .args none none =>
      s.goto me (place (if taskFirst then .args (some s.flushTask) none
        else .args none (some s.flushSigMask)))
  | .args (some task) none => s.goto me (place (.args (some task) (some s.flushSigMask)))
  | .args none (some mask) => s.goto me (place (.args (some s.flushTask) (some mask)))
  | .args (some task) (some mask) => (s.deliver task mask).goto me .idle

/-- The next step of a task in one of the two calls. -/
def FlushLoop.callerStep (s : FlushLoop) (me : ℕ) (taskFirst : Bool) : Option FlushLoop :=
  match s.callers me with
  | .idle => none
  | .activity pc => some (s.signalStep me .activity taskFirst pc)
  | .dpms level .write => some { s.goto me (.dpms level .setScanout) with dpmsLevel := level }
  | .dpms level .setScanout =>
      some (s.goto me (if level = 0 then .dpms level (.signal .readTask) else .idle))
  | .dpms level (.signal pc) =>
      some (s.signalStep me (fun pc => .dpms level (.signal pc)) taskFirst pc)

inductive LoopAction where
  | flush (ok : Bool)
  /-- `timer.device` replies to the request. -/
  | timer
  | ctrlC
  | quit
  /-- A task calls `chip_flush_signal_activity`. -/
  | signalActivity (me : ℕ)
  /-- A task calls `chip_SetDPMSLevel`. -/
  | setDpmsLevel (me : ℕ) (level : UInt32)
  | caller (me : ℕ) (taskFirst : Bool)
  deriving DecidableEq, Repr

def FlushLoop.step (s : FlushLoop) : LoopAction → Option FlushLoop
  | .flush ok => s.flushStep ok
  | .timer =>
      if s.timer = .running then some { s with timer := .replied, timerSignal := true } else none
  | .ctrlC => some { s with ctrlC := true }
  | .quit => some { s with flushTaskQuit := true }
  | .signalActivity me =>
      if s.callers me = .idle then some (s.goto me (.activity .readTask)) else none
  | .setDpmsLevel me level =>
      if s.callers me = .idle then some (s.goto me (.dpms level .write)) else none
  | .caller me taskFirst => s.callerStep me taskFirst

/-! ## The timer request -/

def LoopPc.starting : LoopPc → Bool
  | .allocPort | .allocRequest | .openDevice | .allocSignal | .publishTask | .publishMask => true
  | _ => false

/-- After `WaitIO`, or without a request. -/
def LoopPc.closing : LoopPc → Bool
  | .clearMask | .clearTask | .freeSignal | .freePort | .done => true
  | _ => false

/-- `Wait` has returned the timer signal and the reply is not taken yet. -/
def LoopPc.replyDue : LoopPc → Bool
  | .readQuitAgain true _ | .getMsg true _ => true
  | _ => false

/-- `timer_pending` says whether the request is out. -/
structure RequestInv (s : FlushLoop) : Prop where
  sentOnce : s.sentTwice = false
  keptPort : s.freedEarly = false
  pending : s.pc.closing = false → (s.timerPending = true ↔ s.timer ≠ .owned)
  owned : s.pc.starting = true ∨ s.pc.closing = true → s.timer = .owned
  signalled : s.pc.closing = false → s.timerSignal = true → s.timer = .replied
  due : s.pc.replyDue = true → s.timer = .replied ∧ s.timerSignal = false

theorem RequestInv.initial : RequestInv .initial := by
  constructor <;> simp [FlushLoop.initial, LoopPc.replyDue]

section Request

variable {s t : FlushLoop}

/-- A step that leaves the request alone. -/
theorem RequestInv.of_quiet (inv : RequestInv s) (htimer : t.timer = s.timer)
    (hpending : t.timerPending = s.timerPending) (hsignal : t.timerSignal = s.timerSignal)
    (hsent : t.sentTwice = s.sentTwice) (hfreed : t.freedEarly = s.freedEarly)
    (hclosing : t.pc.closing = false → s.pc.closing = false)
    (howned : t.pc.starting = true ∨ t.pc.closing = true →
      s.pc.starting = true ∨ s.pc.closing = true)
    (hdue : t.pc.replyDue = true → s.pc.replyDue = true) : RequestInv t := by
  constructor
  · rw [hsent]
    exact inv.sentOnce
  · rw [hfreed]
    exact inv.keptPort
  · intro h
    rw [hpending, htimer]
    exact inv.pending (hclosing h)
  · intro h
    rw [htimer]
    exact inv.owned (howned h)
  · intro h
    rw [hsignal, htimer]
    exact inv.signalled (hclosing h)
  · intro h
    rw [hsignal, htimer]
    exact inv.due (hdue h)

theorem RequestInv.goto (inv : RequestInv s) (me : ℕ) (pc : CallerPc) :
    RequestInv (s.goto me pc) :=
  inv.of_quiet rfl rfl rfl rfl rfl id id id

/-- The task owns the request, and its signal is not set. -/
theorem RequestInv.of_owned (hsent : t.sentTwice = false) (hfreed : t.freedEarly = false)
    (howned : t.timer = .owned) (hpending : t.pc.closing = false → t.timerPending = false)
    (hsignal : t.pc.closing = false → t.timerSignal = false) (hdue : t.pc.replyDue = false) :
    RequestInv t := by
  constructor
  · exact hsent
  · exact hfreed
  · intro h
    simp [howned, hpending h]
  · exact fun _ => howned
  · intro h
    simp [hsignal h]
  · simp [hdue]

/-- Where the task owns the request, the signal of its port is not set. -/
theorem RequestInv.unsignalled (inv : RequestInv s) (hopen : s.pc.closing = false)
    (howned : s.timer = .owned) : s.timerPending = false ∧ s.timerSignal = false := by
  constructor
  · refine Bool.eq_false_iff.mpr fun h => ?_
    exact (inv.pending hopen).mp h howned
  · refine Bool.eq_false_iff.mpr fun h => ?_
    have hreplied := inv.signalled hopen h
    rw [howned] at hreplied
    cases hreplied

/-- Where `timer_pending` is not set, the task owns the request. -/
theorem RequestInv.owned_of_unarmed (inv : RequestInv s) (hopen : s.pc.closing = false)
    (hunarmed : ¬ s.timerPending = true) : s.timer = .owned := by
  by_contra hout
  exact hunarmed ((inv.pending hopen).mpr hout)

/-! One lemma for each place that has to do with the request.  It is out from `arm` on, comes back
with the timer signal that `wait` takes or with `waitRequest`, and is owned at `freePort`. -/

section Places

variable {ok : Bool}

/-- Before the loop the request has not been sent. -/
theorem RequestInv.start (inv : RequestInv s) (hpc : s.pc.starting = true)
    (hstep : s.flushStep ok = some t) : RequestInv t := by
  have howned := inv.owned (Or.inl hpc)
  have hopen : s.pc.closing = false := by
    cases h : s.pc <;> simp_all [LoopPc.starting, LoopPc.closing]
  obtain ⟨hpending, hsignal⟩ := inv.unsignalled hopen howned
  have hquiet {u : FlushLoop} (hsent : u.sentTwice = s.sentTwice)
      (hfreed : u.freedEarly = s.freedEarly) (htimer : u.timer = s.timer)
      (hpending' : u.timerPending = s.timerPending) (hsignal' : u.timerSignal = s.timerSignal)
      (hdue : u.pc.replyDue = false) : RequestInv u :=
    .of_owned (hsent.trans inv.sentOnce) (hfreed.trans inv.keptPort) (htimer.trans howned)
      (fun _ => hpending'.trans hpending) (fun _ => hsignal'.trans hsignal) hdue
  cases h : s.pc with
  | allocPort | allocRequest | openDevice =>
      simp only [FlushLoop.flushStep, h, Option.some.injEq] at hstep
      subst hstep
      exact hquiet rfl rfl rfl rfl rfl (by cases ok <;> rfl)
  | allocSignal =>
      simp only [FlushLoop.flushStep, h] at hstep
      cases ok <;> obtain rfl := Option.some.inj hstep
      · exact hquiet rfl rfl rfl rfl rfl rfl
      · exact hquiet rfl rfl rfl rfl rfl rfl
  | publishTask | publishMask =>
      simp only [FlushLoop.flushStep, h, Option.some.injEq] at hstep
      subst hstep
      exact hquiet rfl rfl rfl rfl rfl rfl
  | _ => simp [h, LoopPc.starting] at hpc

/-- The request is sent when `timer_pending` is not set, and then the task owns it. -/
theorem RequestInv.arm (inv : RequestInv s) (hpc : s.pc = .arm)
    (hstep : s.flushStep ok = some t) : RequestInv t := by
  have hsent := inv.sentOnce
  have hfreed := inv.keptPort
  have hopen : s.pc.closing = false := by rw [hpc]; rfl
  simp only [FlushLoop.flushStep, hpc] at hstep
  split at hstep
  · obtain rfl := Option.some.inj hstep
    exact inv.of_quiet rfl rfl rfl rfl rfl (fun _ => hopen)
      (by simp [LoopPc.starting, LoopPc.closing]) (by simp [LoopPc.replyDue])
  · rename_i hunarmed
    obtain rfl := Option.some.inj hstep
    have howned := inv.owned_of_unarmed hopen hunarmed
    obtain ⟨-, hsignal⟩ := inv.unsignalled hopen howned
    constructor <;> simp [hsent, hfreed, howned, hsignal, LoopPc.starting, LoopPc.closing,
      LoopPc.replyDue]

/-- With the timer signal the reply is there. -/
theorem RequestInv.wait (inv : RequestInv s) (hpc : s.pc = .wait)
    (hstep : s.flushStep ok = some t) : RequestInv t := by
  have hopen : s.pc.closing = false := by rw [hpc]; rfl
  simp only [FlushLoop.flushStep, hpc] at hstep
  split at hstep
  · obtain rfl := Option.some.inj hstep
    constructor
    · exact inv.sentOnce
    · exact inv.keptPort
    · exact fun _ => inv.pending hopen
    · cases s.ctrlC <;> simp [LoopPc.starting, LoopPc.closing]
    · simp
    · intro hdue
      refine ⟨inv.signalled hopen ?_, rfl⟩
      by_contra hsilent
      cases hC : s.ctrlC <;> simp_all [LoopPc.replyDue]
  · cases hstep

/-- `GetMsg` takes the reply that the timer signal has announced. -/
theorem RequestInv.getMsg {wasTimer wasSignal : Bool} (inv : RequestInv s)
    (hpc : s.pc = .getMsg wasTimer wasSignal) (hstep : s.flushStep ok = some t) :
    RequestInv t := by
  simp only [FlushLoop.flushStep, hpc] at hstep
  cases wasTimer with
  | false =>
      obtain rfl := Option.some.inj hstep
      exact inv.of_quiet rfl rfl rfl rfl rfl (by simp [hpc, LoopPc.closing])
        (by simp [LoopPc.starting, LoopPc.closing]) (by simp [LoopPc.replyDue])
  | true =>
      obtain rfl := Option.some.inj hstep
      obtain ⟨hreplied, hsignal⟩ := inv.due (by rw [hpc]; rfl)
      exact .of_owned inv.sentOnce inv.keptPort (if_pos hreplied) (fun _ => rfl)
        (fun _ => hsignal) rfl

/-- The task waits for the reply, unless the request is not out. -/
theorem RequestInv.waitRequest (inv : RequestInv s) (hpc : s.pc = .waitRequest)
    (hstep : s.flushStep ok = some t) : RequestInv t := by
  have hclosed {u : FlushLoop} (hu : u.pc = .clearMask) : u.pc.closing ≠ false := by
    simp [hu, LoopPc.closing]
  simp only [FlushLoop.flushStep, hpc] at hstep
  split at hstep
  · split at hstep
    · cases hstep
    · obtain rfl := Option.some.inj hstep
      exact .of_owned inv.sentOnce inv.keptPort rfl (fun h => absurd h (hclosed rfl))
        (fun h => absurd h (hclosed rfl)) rfl
  · rename_i hunarmed
    obtain rfl := Option.some.inj hstep
    have howned := inv.owned_of_unarmed (by rw [hpc]; rfl) hunarmed
    exact .of_owned inv.sentOnce inv.keptPort howned (fun h => absurd h (hclosed rfl))
      (fun h => absurd h (hclosed rfl)) rfl

theorem RequestInv.freePort (inv : RequestInv s) (hpc : s.pc = .freePort)
    (hstep : s.flushStep ok = some t) : RequestInv t := by
  simp only [FlushLoop.flushStep, hpc, Option.some.injEq] at hstep
  subst hstep
  have howned := inv.owned (Or.inr (by rw [hpc]; rfl))
  exact .of_owned inv.sentOnce (by simp [inv.keptPort, howned]) howned (by simp [LoopPc.closing])
    (by simp [LoopPc.closing]) rfl

theorem RequestInv.flushStep (inv : RequestInv s) (hstep : s.flushStep ok = some t) :
    RequestInv t := by
  cases hpc : s.pc with
  | allocPort | allocRequest | openDevice | allocSignal | publishTask | publishMask =>
      exact inv.start (by rw [hpc]; rfl) hstep
  | arm => exact inv.arm hpc hstep
  | wait => exact inv.wait hpc hstep
  | getMsg wasTimer wasSignal => exact inv.getMsg hpc hstep
  | waitRequest => exact inv.waitRequest hpc hstep
  | freePort => exact inv.freePort hpc hstep
  -- elsewhere the request is left alone
  | readQuit | readDpms | tick | enterFlush | flush =>
      simp only [FlushLoop.flushStep, hpc, Option.some.injEq] at hstep
      subst hstep
      refine inv.of_quiet rfl rfl rfl rfl rfl ?_ ?_ ?_ <;>
        simp only [hpc] <;> (try split) <;>
        simp [LoopPc.closing, LoopPc.starting, LoopPc.replyDue]
  | clearSignal wasSignal =>
      simp only [FlushLoop.flushStep, hpc, Option.some.injEq] at hstep
      subst hstep
      exact inv.of_quiet rfl rfl rfl rfl rfl (by simp [hpc, LoopPc.closing])
        (by simp [LoopPc.starting, LoopPc.closing]) (by simp [LoopPc.replyDue])
  | readQuitAgain wasTimer wasSignal =>
      simp only [FlushLoop.flushStep, hpc, Option.some.injEq] at hstep
      subst hstep
      refine inv.of_quiet rfl rfl rfl rfl rfl ?_ ?_ ?_ <;> simp only [hpc] <;> split <;>
        cases wasTimer <;> simp [LoopPc.closing, LoopPc.starting, LoopPc.replyDue]
  | clearMask | clearTask | freeSignal =>
      simp only [FlushLoop.flushStep, hpc, Option.some.injEq] at hstep
      subst hstep
      refine inv.of_quiet rfl rfl rfl rfl rfl ?_ ?_ ?_ <;>
        simp [hpc, LoopPc.closing, LoopPc.replyDue]
  | done =>
      simp only [FlushLoop.flushStep, hpc] at hstep
      cases hstep

end Places

theorem RequestInv.callerStep {me : ℕ} {taskFirst : Bool} (inv : RequestInv s)
    (hstep : s.callerStep me taskFirst = some t) : RequestInv t := by
  have hsignalStep (place : SignalPc → CallerPc) (pc : SignalPc) :
      RequestInv (s.signalStep me place taskFirst pc) := by
    cases pc with
    | readTask | readMask => exact inv.goto me _
    | args task mask =>
        rcases task with - | task <;> rcases mask with - | mask
        · exact inv.goto me _
        · exact inv.goto me _
        · exact inv.goto me _
        · rw [FlushLoop.signalStep, FlushLoop.deliver]
          split
          · exact inv.of_quiet rfl rfl rfl rfl rfl id id id
          · exact inv.goto me _
  rw [FlushLoop.callerStep] at hstep
  split at hstep
  · cases hstep
  · obtain rfl := Option.some.inj hstep
    exact hsignalStep _ _
  · obtain rfl := Option.some.inj hstep
    exact inv.of_quiet rfl rfl rfl rfl rfl id id id
  · obtain rfl := Option.some.inj hstep
    exact inv.goto me _
  · obtain rfl := Option.some.inj hstep
    exact hsignalStep _ _

theorem RequestInv.step {action : LoopAction} (inv : RequestInv s)
    (hstep : s.step action = some t) : RequestInv t := by
  cases action with
  | flush ok => exact inv.flushStep hstep
  | caller me taskFirst => exact inv.callerStep hstep
  | ctrlC | quit =>
      obtain rfl := Option.some.inj hstep
      exact inv.of_quiet rfl rfl rfl rfl rfl id id id
  | signalActivity me | setDpmsLevel me level =>
      rw [FlushLoop.step] at hstep
      split at hstep
      · obtain rfl := Option.some.inj hstep
        exact inv.goto me _
      · cases hstep
  | timer =>
      rw [FlushLoop.step] at hstep
      split at hstep
      · rename_i hrunning
        obtain rfl := Option.some.inj hstep
        have hout : s.timer ≠ .owned := by simp [hrunning]
        constructor
        · exact inv.sentOnce
        · exact inv.keptPort
        · intro hopen
          simp [(inv.pending hopen).mpr hout]
        · exact fun h => absurd (inv.owned h) hout
        · exact fun _ _ => rfl
        · -- a reply that is due is in the port already
          intro hdue
          have hreplied := (inv.due hdue).1
          rw [hrunning] at hreplied
          cases hreplied
      · cases hstep

end Request

/-! ## What the callers read -/

/-- In `while (!gs->flush_task_quit)`. -/
def LoopPc.inLoop (pc : LoopPc) : Bool :=
  !pc.starting && !pc.closing && decide (pc ≠ .waitRequest)

def CallerPc.signalPc : CallerPc → Option SignalPc
  | .idle => none
  | .activity pc => some pc
  | .dpms _ (.signal pc) => some pc
  | .dpms _ _ => none

/-- While the task is in its loop, everybody finds it. -/
structure PublishInv (s : FlushLoop) : Prop where
  task : s.pc = .publishMask ∨ s.pc.inLoop = true → s.flushTask = true
  mask : s.pc.inLoop = true → s.flushSigMask = true
  unpublished : s.pc.starting = true → s.flushSigMask = false
  started : ∀ me task mask, (s.callers me).signalPc = some (.args task mask) →
    s.pc.starting = false
  args : ∀ me task mask, (s.callers me).signalPc = some (.args task mask) →
    s.pc.inLoop = true → task ≠ some false ∧ mask ≠ some false

theorem PublishInv.initial : PublishInv .initial := by
  constructor <;> simp [FlushLoop.initial, LoopPc.inLoop, LoopPc.starting, CallerPc.signalPc]

section Publish

variable {s t : FlushLoop}

/-- The task goes on and publishes nothing. -/
theorem PublishInv.of_quiet (inv : PublishInv s) (hcallers : t.callers = s.callers)
    (htask : t.flushTask = s.flushTask) (hmask : t.flushSigMask = s.flushSigMask)
    (hpublished : t.pc ≠ .publishMask) (hloop : t.pc.inLoop = true → s.pc.inLoop = true)
    (hstarting : t.pc.starting = true → s.pc.starting = true) : PublishInv t := by
  constructor
  · rintro (h | h)
    · exact absurd h hpublished
    · rw [htask]
      exact inv.task (Or.inr (hloop h))
  · intro h
    rw [hmask]
    exact inv.mask (hloop h)
  · intro h
    rw [hmask]
    exact inv.unpublished (hstarting h)
  · intro me task mask h
    rw [hcallers] at h
    have hstarted := inv.started me task mask h
    exact Bool.eq_false_iff.mpr fun h' => Bool.eq_false_iff.mp hstarted (hstarting h')
  · intro me task mask h h'
    rw [hcallers] at h
    exact inv.args me task mask h (hloop h')

/-- The task writes nothing that the callers write, and it publishes and retracts itself in four
places only. -/
theorem FlushLoop.flushStep_frame {ok : Bool} (hstep : s.flushStep ok = some t) :
    t.callers = s.callers ∧ t.dpmsLevel = s.dpmsLevel ∧
      (s.pc ∉ [.publishTask, .publishMask, .clearMask, .clearTask] →
        t.flushTask = s.flushTask ∧ t.flushSigMask = s.flushSigMask ∧ t.pc ≠ .publishMask ∧
          (t.pc.inLoop = true → s.pc.inLoop = true) ∧
          (t.pc.starting = true → s.pc.starting = true)) := by
  cases hpc : s.pc <;> simp only [FlushLoop.flushStep, hpc] at hstep <;>
    grind [LoopPc.inLoop, LoopPc.starting, LoopPc.closing]

theorem PublishInv.flushStep {ok : Bool} (inv : PublishInv s)
    (hstep : s.flushStep ok = some t) : PublishInv t := by
  obtain ⟨hcallers, -, hquiet⟩ := FlushLoop.flushStep_frame hstep
  by_cases hplace : s.pc ∉ [.publishTask, .publishMask, .clearMask, .clearTask]
  · obtain ⟨htask, hmask, hpublished, hloop, hstarting⟩ := hquiet hplace
    exact inv.of_quiet hcallers htask hmask hpublished hloop hstarting
  · simp only [List.mem_cons, List.not_mem_nil, or_false, not_not] at hplace
    rcases hplace with hpc | hpc | hpc | hpc <;>
      simp only [FlushLoop.flushStep, hpc, Option.some.injEq] at hstep <;> subst hstep
    · have hstarting : s.pc.starting = true := by rw [hpc]; rfl
      constructor
      · exact fun _ => rfl
      · simp [LoopPc.inLoop, LoopPc.starting]
      · exact fun _ => inv.unpublished hstarting
      · intro me task mask h
        have hstarted := inv.started me task mask h
        rw [hstarting] at hstarted
        cases hstarted
      · simp [LoopPc.inLoop, LoopPc.starting]
    · -- nobody has passed the check of the mask yet
      have hnobody : ∀ me task mask, (s.callers me).signalPc ≠ some (.args task mask) := by
        intro me task mask h
        have hstarted := inv.started me task mask h
        rw [hpc] at hstarted
        cases hstarted
      constructor
      · exact fun _ => inv.task (Or.inl hpc)
      · exact fun _ => rfl
      · simp [LoopPc.starting]
      · exact fun me task mask h => absurd h (hnobody me task mask)
      · exact fun me task mask h => absurd h (hnobody me task mask)
    all_goals
      constructor <;> simp [LoopPc.inLoop, LoopPc.starting, LoopPc.closing]

/-- A caller goes on to a place where what it has read is the truth. -/
theorem PublishInv.goto (inv : PublishInv s) (me : ℕ) {pc : CallerPc}
    (hargs : ∀ task mask, pc.signalPc = some (.args task mask) → s.pc.starting = false ∧
      (s.pc.inLoop = true → task ≠ some false ∧ mask ≠ some false)) :
    PublishInv (s.goto me pc) := by
  have hother (other : ℕ) (task mask : Option Bool)
      (h : ((s.goto me pc).callers other).signalPc = some (.args task mask)) :
      s.pc.starting = false ∧ (s.pc.inLoop = true → task ≠ some false ∧ mask ≠ some false) := by
    by_cases hme : other = me
    · rw [hme, FlushLoop.goto_self] at h
      exact hargs task mask h
    · rw [FlushLoop.goto_of_ne s pc hme] at h
      exact ⟨inv.started other task mask h, inv.args other task mask h⟩
  exact ⟨inv.task, inv.mask, inv.unpublished, fun other task mask h => (hother other task mask h).1,
    fun other task mask h => (hother other task mask h).2⟩

/-- A signal that arrives. -/
theorem PublishInv.deliver (inv : PublishInv s) (task mask : Bool) :
    PublishInv (s.deliver task mask) := by
  rw [FlushLoop.deliver]
  split
  · exact ⟨inv.task, inv.mask, inv.unpublished, inv.started, inv.args⟩
  · exact inv

/-- In the loop the reads of the arguments give what the check has seen. -/
theorem PublishInv.signalStep (inv : PublishInv s) {me : ℕ} (place : SignalPc → CallerPc)
    {pc : SignalPc} (hplace : ∀ pc, (place pc).signalPc = some pc)
    (hpc : (s.callers me).signalPc = some pc) (taskFirst : Bool) :
    PublishInv (s.signalStep me place taskFirst pc) := by
  have hidle (u : FlushLoop) (inv : PublishInv u) : PublishInv (u.goto me .idle) :=
    inv.goto me fun task mask h => by cases h
  cases pc with
  | readTask =>
      rw [FlushLoop.signalStep]
      split
      · refine inv.goto me fun task mask h => ?_
        rw [hplace] at h
        cases h
      · exact hidle s inv
  | readMask =>
      rw [FlushLoop.signalStep]
      split
      · rename_i hmask
        refine inv.goto me fun task mask h => ?_
        rw [hplace] at h
        cases h
        refine ⟨Bool.eq_false_iff.mpr fun hstarting => ?_, fun _ => by simp⟩
        rw [inv.unpublished hstarting] at hmask
        cases hmask
      · exact hidle s inv
  | args task mask =>
      have hstarted := inv.started me task mask hpc
      -- whatever has been read in the loop is what is published there, in whichever order
      have hread (hloop : s.pc.inLoop = true) := inv.args me task mask hpc hloop
      have htask (hloop : s.pc.inLoop = true) := inv.task (Or.inr hloop)
      rcases task with - | task <;> rcases mask with - | mask
      · refine inv.goto me fun task mask h => ?_
        rw [hplace] at h
        refine ⟨hstarted, fun hloop => ?_⟩
        cases taskFirst
        · cases h
          simp [inv.mask hloop]
        · cases h
          simp [htask hloop]
      · refine inv.goto me fun task mask h => ?_
        rw [hplace] at h
        cases h
        exact ⟨hstarted, fun hloop => ⟨by simp [htask hloop], (hread hloop).2⟩⟩
      · refine inv.goto me fun task mask h => ?_
        rw [hplace] at h
        cases h
        exact ⟨hstarted, fun hloop => ⟨(hread hloop).1, by simp [inv.mask hloop]⟩⟩
      · exact hidle _ (inv.deliver task mask)

theorem PublishInv.callerStep {me : ℕ} {taskFirst : Bool} (inv : PublishInv s)
    (hstep : s.callerStep me taskFirst = some t) : PublishInv t := by
  cases hcaller : s.callers me with
  | idle =>
      simp only [FlushLoop.callerStep, hcaller] at hstep
      cases hstep
  | activity pc =>
      simp only [FlushLoop.callerStep, hcaller, Option.some.injEq] at hstep
      subst hstep
      exact inv.signalStep .activity (fun _ => rfl) (by rw [hcaller]; rfl) taskFirst
  | dpms level pc =>
      cases pc with
      | write =>
          simp only [FlushLoop.callerStep, hcaller, Option.some.injEq] at hstep
          subst hstep
          have inv' : PublishInv (s.goto me (.dpms level .setScanout)) :=
            inv.goto me fun task mask h => by cases h
          exact ⟨inv'.task, inv'.mask, inv'.unpublished, inv'.started, inv'.args⟩
      | setScanout =>
          simp only [FlushLoop.callerStep, hcaller, Option.some.injEq] at hstep
          subst hstep
          refine inv.goto me fun task mask h => ?_
          split at h <;> cases h
      | signal pc =>
          simp only [FlushLoop.callerStep, hcaller, Option.some.injEq] at hstep
          subst hstep
          exact inv.signalStep (fun pc => .dpms level (.signal pc)) (fun _ => rfl)
            (by rw [hcaller]; rfl) taskFirst

theorem PublishInv.step {action : LoopAction} (inv : PublishInv s)
    (hstep : s.step action = some t) : PublishInv t := by
  cases action with
  | flush ok => exact inv.flushStep hstep
  | caller me taskFirst => exact inv.callerStep hstep
  | ctrlC | quit =>
      obtain rfl := Option.some.inj hstep
      exact ⟨inv.task, inv.mask, inv.unpublished, inv.started, inv.args⟩
  | timer =>
      rw [FlushLoop.step] at hstep
      split at hstep
      · obtain rfl := Option.some.inj hstep
        exact ⟨inv.task, inv.mask, inv.unpublished, inv.started, inv.args⟩
      · cases hstep
  | signalActivity me | setDpmsLevel me level =>
      rw [FlushLoop.step] at hstep
      split at hstep
      · obtain rfl := Option.some.inj hstep
        exact inv.goto me fun task mask h => by cases h
      · cases hstep

end Publish

/-! ## What the signals still ask for -/

/-- On the way from `Wait` to `chip_flush_all`. -/
def LoopPc.answering : LoopPc → Bool
  | .readQuitAgain .. | .getMsg .. | .clearSignal _ | .readDpms | .tick | .enterFlush => true
  | _ => false

/-- A call has turned the display on, and its signal is still to come. -/
def FlushLoop.Resuming (s : FlushLoop) : Prop :=
  ∃ me pc, s.callers me = .dpms 0 pc ∧ pc ≠ .write

/-- The frame will be presented once more. -/
def FlushLoop.WillFlush (s : FlushLoop) : Prop :=
  s.activitySignal = true ∨ s.pc.answering = true ∨ s.dpmsLevel ≠ 0 ∨ s.Resuming

structure SignalInv (s : FlushLoop) : Prop where
  silent : s.pc.starting = true → s.history = []
  owed : s.pc.inLoop = true → s.history.head? = some .signalled → s.WillFlush

theorem SignalInv.initial : SignalInv .initial := by
  constructor <;> simp [FlushLoop.initial]

section Signal

variable {s t : FlushLoop}

/-- One step of the task in its loop: it enters `chip_flush_all`, or what made it wake up or
answer stays so, unless it has seen the display off. -/
theorem FlushLoop.flushStep_loop {ok : Bool} (hstep : s.flushStep ok = some t)
    (hloop : s.pc.inLoop = true) (hloop' : t.pc.inLoop = true) :
    t.history = .entered :: s.history ∨
      t.history = s.history ∧
        (s.activitySignal = true → t.activitySignal = true ∨ t.pc.answering = true) ∧
        (s.pc.answering = true → t.pc.answering = true ∨ t.dpmsLevel ≠ 0) := by
  cases hpc : s.pc <;> simp only [FlushLoop.flushStep, hpc] at hstep <;>
    grind [LoopPc.inLoop, LoopPc.answering, LoopPc.starting, LoopPc.closing]

/-- The task has delivered nothing to itself when it comes to its loop. -/
theorem FlushLoop.flushStep_starting {ok : Bool} (hstep : s.flushStep ok = some t) :
    (t.pc.starting = true → s.pc.starting = true) ∧
      (t.pc.inLoop = true → s.pc.starting = true ∨ s.pc.inLoop = true) ∧
      (s.pc.starting = true → t.history = s.history) := by
  cases hpc : s.pc <;> simp only [FlushLoop.flushStep, hpc] at hstep <;>
    grind [LoopPc.inLoop, LoopPc.starting, LoopPc.closing]

theorem SignalInv.flushStep {ok : Bool} (inv : SignalInv s) (hstep : s.flushStep ok = some t) :
    SignalInv t := by
  obtain ⟨hcallers, hdpms, -⟩ := FlushLoop.flushStep_frame hstep
  obtain ⟨hstarting, hloop, hhistory⟩ := FlushLoop.flushStep_starting hstep
  constructor
  · intro h
    rw [hhistory (hstarting h)]
    exact inv.silent (hstarting h)
  · intro h hhead
    rcases hloop h with h' | h'
    · rw [hhistory h', inv.silent h'] at hhead
      cases hhead
    · rcases FlushLoop.flushStep_loop hstep h' h with hentered | ⟨hsame, hactivity, hanswering⟩
      · rw [hentered] at hhead
        cases hhead
      · rw [hsame] at hhead
        rcases inv.owed h' hhead with hset | hanswers | hoff | ⟨me, pc, hcall, hpc⟩
        · rcases hactivity hset with hset' | hanswers'
          · exact Or.inl hset'
          · exact Or.inr (Or.inl hanswers')
        · rcases hanswering hanswers with hanswers' | hoff
          · exact Or.inr (Or.inl hanswers')
          · exact Or.inr (Or.inr (Or.inl hoff))
        · exact Or.inr (Or.inr (Or.inl (by rwa [hdpms])))
        · exact Or.inr (Or.inr (Or.inr ⟨me, pc, by rwa [hcallers], hpc⟩))

/-- A caller goes on; where it still owes a signal it keeps owing it. -/
theorem SignalInv.goto (inv : SignalInv s) (me : ℕ) {pc : CallerPc}
    (howes : s.pc.inLoop = true → ∀ old, s.callers me = .dpms 0 old → old ≠ .write →
      ∃ new, pc = .dpms 0 new ∧ new ≠ .write) : SignalInv (s.goto me pc) := by
  refine ⟨inv.silent, fun hloop hhead => ?_⟩
  rcases inv.owed hloop hhead with hset | hanswers | hoff | ⟨other, old, hcall, hold⟩
  · exact Or.inl hset
  · exact Or.inr (Or.inl hanswers)
  · exact Or.inr (Or.inr (Or.inl hoff))
  · refine Or.inr (Or.inr (Or.inr ?_))
    by_cases hme : other = me
    · rw [hme] at hcall
      obtain ⟨new, rfl, hnew⟩ := howes hloop old hcall hold
      exact ⟨me, new, s.goto_self me _, hnew⟩
    · exact ⟨other, old, by rwa [s.goto_of_ne pc hme], hold⟩

/-- The call ends with its signal. -/
theorem SignalInv.delivered (hstarted : s.pc.starting = false) (me : ℕ) :
    SignalInv ((s.deliver true true).goto me .idle) := by
  refine ⟨fun h => ?_, fun _ _ => Or.inl rfl⟩
  have hstarting : s.pc.starting = true := h
  rw [hstarted] at hstarting
  cases hstarting

theorem SignalInv.signalStep (inv : SignalInv s) (published : PublishInv s) {me : ℕ}
    (place : SignalPc → CallerPc) {pc : SignalPc} (hplace : ∀ pc, (place pc).signalPc = some pc)
    (hcaller : s.callers me = place pc)
    (howes : ∀ pc old, place pc = .dpms 0 old → ∀ pc', ∃ new, place pc' = .dpms 0 new ∧
      new ≠ .write) (taskFirst : Bool) : SignalInv (s.signalStep me place taskFirst pc) := by
  have hnext (pc' : SignalPc) : SignalInv (s.goto me (place pc')) := by
    refine inv.goto me fun _ old hold _ => ?_
    rw [hcaller] at hold
    exact howes pc old hold pc'
  have hcall : (s.callers me).signalPc = some pc := by rw [hcaller, hplace]
  cases pc with
  | readTask =>
      rw [FlushLoop.signalStep]
      split
      · exact hnext _
      · -- the task that has not published itself owes nothing
        rename_i htask
        refine inv.goto me fun hloop => ?_
        rw [published.task (Or.inr hloop)] at htask
        exact absurd rfl htask
  | readMask =>
      rw [FlushLoop.signalStep]
      split
      · exact hnext _
      · rename_i hmask
        refine inv.goto me fun hloop => ?_
        rw [published.mask hloop] at hmask
        exact absurd rfl hmask
  | args task mask =>
      rcases task with - | task <;> rcases mask with - | mask
      · exact hnext _
      · exact hnext _
      · exact hnext _
      · have hstarted := published.started me _ _ hcall
        rw [FlushLoop.signalStep]
        by_cases hboth : task = true ∧ mask = true
        · obtain ⟨rfl, rfl⟩ := hboth
          exact .delivered hstarted me
        · have hkept : s.deliver task mask = s := by
            rw [FlushLoop.deliver, if_neg (by simpa using hboth)]
          rw [hkept]
          refine inv.goto me fun hloop => ?_
          have hread := published.args me _ _ hcall hloop
          simp only [ne_eq, Option.some.injEq, Bool.not_eq_false] at hread
          exact absurd hread hboth

theorem SignalInv.callerStep {me : ℕ} {taskFirst : Bool} (inv : SignalInv s)
    (published : PublishInv s) (hstep : s.callerStep me taskFirst = some t) : SignalInv t := by
  cases hcaller : s.callers me with
  | idle =>
      simp only [FlushLoop.callerStep, hcaller] at hstep
      cases hstep
  | activity pc =>
      simp only [FlushLoop.callerStep, hcaller, Option.some.injEq] at hstep
      subst hstep
      exact inv.signalStep published .activity (fun _ => rfl) hcaller (fun _ _ h => by cases h)
        taskFirst
  | dpms level pc =>
      cases pc with
      | write =>
          simp only [FlushLoop.callerStep, hcaller, Option.some.injEq] at hstep
          subst hstep
          refine ⟨inv.silent, fun _ _ => ?_⟩
          by_cases hon : level = 0
          · subst hon
            exact Or.inr (Or.inr (Or.inr ⟨me, .setScanout, s.goto_self me _, by simp⟩))
          · exact Or.inr (Or.inr (Or.inl hon))
      | setScanout =>
          simp only [FlushLoop.callerStep, hcaller, Option.some.injEq] at hstep
          subst hstep
          refine inv.goto me fun _ old hold _ => ?_
          rw [hcaller] at hold
          cases hold
          exact ⟨.signal .readTask, rfl, by simp⟩
      | signal pc =>
          simp only [FlushLoop.callerStep, hcaller, Option.some.injEq] at hstep
          subst hstep
          refine inv.signalStep published (fun pc => .dpms level (.signal pc)) (fun _ => rfl)
            hcaller (fun pc old hold pc' => ?_) taskFirst
          cases hold
          exact ⟨_, rfl, by simp⟩

theorem SignalInv.step {action : LoopAction} (inv : SignalInv s) (published : PublishInv s)
    (hstep : s.step action = some t) : SignalInv t := by
  cases action with
  | flush ok => exact inv.flushStep hstep
  | caller me taskFirst => exact inv.callerStep published hstep
  | ctrlC | quit =>
      obtain rfl := Option.some.inj hstep
      exact ⟨inv.silent, inv.owed⟩
  | timer =>
      rw [FlushLoop.step] at hstep
      split at hstep
      · obtain rfl := Option.some.inj hstep
        exact ⟨inv.silent, inv.owed⟩
      · cases hstep
  | signalActivity me | setDpmsLevel me level =>
      rw [FlushLoop.step] at hstep
      split at hstep
      · rename_i hidle
        obtain rfl := Option.some.inj hstep
        refine inv.goto me fun _ old hold _ => ?_
        rw [hidle] at hold
        cases hold
      · cases hstep

end Signal

/-! ## Every run -/

/-- The task sleeps although nobody is about to wake it. -/
def FlushLoop.Idle (s : FlushLoop) : Prop :=
  s.pc = .wait ∧ s.activitySignal = false ∧ (∀ me level pc, s.callers me ≠ .dpms level pc) ∧
    s.dpmsLevel = 0

/-- `chip_flush_all` was entered after every signal. -/
def FlushLoop.Presented (s : FlushLoop) : Prop :=
  ∀ newer older, s.history = newer ++ .signalled :: older → .entered ∈ newer

theorem FlushLoop.presented_of_head {s : FlushLoop} (h : s.history.head? ≠ some .signalled) :
    s.Presented := by
  intro newer older hhistory
  rw [hhistory] at h
  rcases newer with - | ⟨event, newer⟩
  · exact absurd rfl h
  · cases event with
    | signalled => exact absurd rfl h
    | entered => exact List.mem_cons_self ..

theorem SignalInv.presented {s : FlushLoop} (inv : SignalInv s) (hidle : s.Idle) :
    s.Presented := by
  obtain ⟨hpc, hactivity, hcallers, hdpms⟩ := hidle
  refine FlushLoop.presented_of_head fun hhead => ?_
  rcases inv.owed (by rw [hpc]; rfl) hhead with hset | hanswers | hoff | ⟨me, pc, hcall, -⟩
  · rw [hactivity] at hset
    cases hset
  · rw [hpc] at hanswers
    cases hanswers
  · exact hoff hdpms
  · exact hcallers me 0 pc hcall

/-- In every interleaving of the flush task with any number of callers, with the timer, Ctrl-C
and requests to quit, the request is never sent while it is out, its reply is taken before the
port goes, and a task that sleeps with nothing pending has presented a frame after every
signal. -/
theorem flush_discipline {actions : List LoopAction} {s : FlushLoop}
    (hrun : Machine.run FlushLoop.step .initial actions = some s) :
    s.sentTwice = false ∧ s.freedEarly = false ∧ (s.Idle → s.Presented) := by
  have hpreserved (s : FlushLoop) (action : LoopAction) (t : FlushLoop)
      (inv : RequestInv s ∧ PublishInv s ∧ SignalInv s) (hstep : s.step action = some t) :
      RequestInv t ∧ PublishInv t ∧ SignalInv t := by
    obtain ⟨request, published, signal⟩ := inv
    exact ⟨request.step hstep, published.step hstep, signal.step published hstep⟩
  have hinitial : RequestInv .initial ∧ PublishInv .initial ∧ SignalInv .initial :=
    ⟨.initial, .initial, .initial⟩
  obtain ⟨request, -, signal⟩ := Machine.run_invariant' hpreserved hinitial hrun
  exact ⟨request.sentOnce, request.keptPort, fun hidle => signal.presented hidle⟩

/-- The task starts, sleeps, and answers one signal. -/
def answersOneSignal : List LoopAction :=
  List.replicate 8 (.flush true) ++ .signalActivity 0 :: List.replicate 5 (.caller 0 true) ++
    List.replicate 10 (.flush true)

theorem flush_discipline_one_signal : ∃ s,
    Machine.run FlushLoop.step .initial answersOneSignal = some s ∧ s.pc = .wait ∧
      s.history = [.entered, .signalled] ∧
      s.sentTwice = false ∧ s.freedEarly = false ∧ (s.Idle → s.Presented) := by
  have hrun : Machine.run FlushLoop.step .initial answersOneSignal = some _ := rfl
  exact ⟨_, hrun, rfl, rfl, flush_discipline hrun⟩

end VirtIOGPU
