import VirtIOGPU.Locking.Discipline

/-!
# Exclusive use of the command buffers

Any number of tasks call the wrappers, `chip_flush_all` and the hook, in any order, and take turns
after every access.  Whenever a function returns, its task holds `io_lock` as often as on entry.
From a write of a task to a buffer up to every use of the reply in the same call no other task
writes to a buffer (`command_buffers_guarded`): with the exception of a `chip_SetScanout` whose
caller does not hold the lock.  It makes up to three attempts, takes the lock for each one of them,
and between two of them the lock is free (`scanout_attempts_interrupted`).

## Strategy

Every function follows the discipline `guarded` (`GpuCall.code_follows`), and the lock excludes
(`Lib.Mutex`).  From both, for a trace of all tasks together:

```text
property            from a write to a read of the same call   holds
LocksBalanced       -                                         in every trace
CallsExclusive      any                                       not in every trace
AttemptsExclusive   the lock is held in the delays between    in every trace
```

From a write of a task to such a read the lock is held without a break (`kept_along`), so no other
task writes.  What `CallsExclusive` misses are two attempts of `chip_SetScanout`.
-/

namespace VirtIOGPU.Locking

open Lib Lib.Mutex

variable {ι : Type} [DecidableEq ι]

/-! ## Traces -/

/-- No task but this one writes to a buffer. -/
def OnlyWrites (t : ι) (trace : List (ι × Op Event)) : Prop :=
  ∀ u e answer, u ≠ t → (u, Op.perform e answer) ∈ trace → ¬ e.Writes

/-- The task does not return from a function. -/
def Stays (t : ι) (trace : List (ι × Op Event)) : Prop :=
  ∀ f answer, (t, Op.perform (.leave f) answer) ∉ trace

/-- From a write on, up to a use of the reply in the same call, no other task writes. -/
def CallsExclusive (trace : List (ι × Op Event)) : Prop :=
  ∀ t before between after write read a b,
    trace = before ++ (t, .perform write a) :: between ++ (t, .perform read b) :: after →
      write.Writes → read.Reads → Stays t between → OnlyWrites t between

/-- After what came before, the task holds the lock in all of its delays. -/
def HoldsInDelays (t : ι) (before between : List (ι × Op Event)) : Prop :=
  ∀ past answer rest, between = past ++ (t, .perform .delay answer) :: rest →
    nesting t (before ++ past) ≠ 0

/-- The same, where no delay without the lock comes in between. -/
def AttemptsExclusive (trace : List (ι × Op Event)) : Prop :=
  ∀ t before between after write read a b,
    trace = before ++ (t, .perform write a) :: between ++ (t, .perform read b) :: after →
      write.Writes → read.Reads → Stays t between →
        HoldsInDelays t (before ++ [(t, .perform write a)]) between → OnlyWrites t between

/-- Calls minus returns. -/
def opened : Op Event → ℤ
  | .perform (.enter _) _ => 1
  | .perform (.leave _) _ => -1
  | _ => 0

/-- Every function that the task calls in there returns, and it returns from no other. -/
def Matched (ops : List (Op Event)) : Prop :=
  (ops.map opened).sum = 0 ∧ ∀ past, past <+: ops → 0 ≤ (past.map opened).sum

/-- The lock is as deep after a return as on entry. -/
def LocksBalanced (trace : List (ι × Op Event)) : Prop :=
  ∀ t f before inside after a b,
    trace = before ++ (t, .perform (.enter f) a) :: inside ++ (t, .perform (.leave f) b) :: after →
      Matched (doneBy t inside) →
        nesting t (before ++ (t, .perform (.enter f) a) :: inside) = nesting t before

/-! ## Functions -/

theorem opened_eq_zero {e : Event} (h : ∀ f, e ≠ .enter f ∧ e ≠ .leave f) (answer : ℕ) :
    opened (.perform e answer) = 0 := by
  cases e with
  | enter f => exact absurd rfl (h f).1
  | leave f => exact absurd rfl (h f).2
  | _ => rfl

/-- A call, a return or neither. -/
theorem Place.next_entries {p q : Place} {op : Op Event} (h : p.next op = some q) :
    (opened op = 1 ∧ ∃ entry, q.entries = entry :: p.entries) ∨
      (opened op = -1 ∧ ∃ entry, p.entries = entry :: q.entries) ∨
        opened op = 0 ∧ q.entries = p.entries := by
  cases op with
  | obtain =>
      obtain rfl := Option.some.inj h
      exact Or.inr (Or.inr ⟨rfl, rfl⟩)
  | release => exact Or.inr (Or.inr ⟨rfl, (Place.next_release h).2.1⟩)
  | perform e answer =>
      cases Place.perform_cases h with
      | enter f => exact Or.inl ⟨rfl, _, rfl⟩
      | leave f hentries => exact Or.inr (Or.inl ⟨rfl, _, hentries⟩)
      | delay hfree => exact Or.inr (Or.inr ⟨rfl, rfl⟩)
      | write hwrites hheld =>
          refine Or.inr (Or.inr ⟨opened_eq_zero (fun f => ⟨?_, ?_⟩) answer, rfl⟩)
          · rintro rfl
            exact hwrites
          · rintro rfl
            exact hwrites
      | keep hcall hwrites hreads => exact Or.inr (Or.inr ⟨opened_eq_zero hcall answer, rfl⟩)

/-- The functions that the task is in already stay below those that it calls. -/
theorem entries_after {p p' : Place} {ops : List (Op Event)}
    {called base : List (LockUser × ℕ)} (h : guarded.after p ops = some p')
    (hentries : p.entries = called ++ base)
    (hmatched : ∀ past, past <+: ops → 0 ≤ (called.length : ℤ) + (past.map opened).sum) :
    ∃ called', p'.entries = called' ++ base ∧
      (called'.length : ℤ) = called.length + (ops.map opened).sum := by
  induction ops generalizing p called with
  | nil =>
      obtain rfl : p = p' := Option.some.inj h
      exact ⟨called, hentries, (Int.add_zero _).symm⟩
  | cons op rest ih =>
      obtain ⟨q, hnext, hrest⟩ := Option.bind_eq_some_iff.mp h
      have hq : ∃ called', q.entries = called' ++ base ∧
          (called'.length : ℤ) = called.length + opened op := by
        rcases Place.next_entries hnext with ⟨hop, entry, hq⟩ | ⟨hop, entry, hp⟩ | ⟨hop, hq⟩
        · refine ⟨entry :: called, ?_, ?_⟩
          · rw [hq, hentries, List.cons_append]
          · rw [hop, List.length_cons, Nat.cast_succ]
        · cases called with
          | nil =>
              -- one of those below would return
              have hfirst := hmatched [op] (List.cons_prefix_cons.mpr ⟨rfl, List.nil_prefix⟩)
              simp [hop] at hfirst
          | cons first called =>
              rw [hp, List.cons_append] at hentries
              refine ⟨called, (List.cons.inj hentries).2, ?_⟩
              rw [hop, List.length_cons, Nat.cast_succ]
              omega
        · exact ⟨called, hq.trans hentries, by rw [hop, Int.add_zero]⟩
      obtain ⟨called', hq, hlength⟩ := hq
      have hmatched' : ∀ past, past <+: rest →
          0 ≤ (called'.length : ℤ) + (past.map opened).sum := by
        intro past hpast
        have hlonger := hmatched (op :: past) (List.cons_prefix_cons.mpr ⟨rfl, hpast⟩)
        rw [List.map_cons, List.sum_cons] at hlonger
        omega
      obtain ⟨called'', hp', hlength'⟩ := ih hrest hq hmatched'
      refine ⟨called'', hp', ?_⟩
      rw [hlength', hlength, List.map_cons, List.sum_cons, Int.add_assoc]

theorem Place.next_leave {p q : Place} {f : LockUser} {a : ℕ}
    (h : p.next (.perform (.leave f) a) = some q) :
    ∃ rest, p.entries = (f, p.depth) :: rest := by
  have hperformed : p.Performed (.leave f) q := Place.perform_cases h
  cases hperformed with
  | leave f hentries => exact ⟨_, hentries⟩
  | write hwrites hheld => exact hwrites.elim
  | keep hcall hwrites hreads => exact absurd rfl (hcall f).2

section

variable {st : State ι Event} {t : ι}

/-- What a task does next, and where this leads. -/
theorem next_place {trace rest : List (ι × Op Event)} {op : Op Event}
    (h : Ordered guarded st) (htrace : st.trace = trace ++ (t, op) :: rest) :
    ∃ p q, guarded.after guarded.start (doneBy t trace) = some p ∧ p.next op = some q ∧
      guarded.after guarded.start (doneBy t (trace ++ [(t, op)])) = some q := by
  obtain ⟨p, hp⟩ := h.place t htrace
  rw [List.append_cons] at htrace
  obtain ⟨q, hq⟩ := h.place t htrace
  refine ⟨p, q, hp, ?_, hq⟩
  rw [doneBy_append, doneBy_self, Discipline.after_snoc op hp] at hq
  exact hq

theorem locksBalanced (h : Ordered guarded st) : LocksBalanced st.trace := by
  intro t f before inside after a b htrace hmatched
  rw [List.append_assoc, List.cons_append] at htrace
  obtain ⟨p, q, hp, hnext, hq⟩ := next_place h htrace
  obtain rfl : { p with entries := (f, p.depth) :: p.entries } = q := Option.some.inj hnext
  -- at the return
  have hreturn : st.trace = (before ++ (t, .perform (.enter f) a) :: inside) ++
      (t, .perform (.leave f) b) :: after := by
    rw [htrace, List.append_assoc, List.cons_append]
  obtain ⟨p', q', hp', hleave, -⟩ := next_place h hreturn
  obtain ⟨rest, hentries⟩ := Place.next_leave hleave
  have hinside : guarded.after { p with entries := (f, p.depth) :: p.entries }
      (doneBy t inside) = some p' := by
    rw [List.append_cons, doneBy_append, Discipline.after_append, hq, Option.bind_some] at hp'
    exact hp'
  obtain ⟨called, hcalled, hlength⟩ := @entries_after _ _ _ [] _ hinside rfl fun past hpast => by
    rw [List.length_nil, Nat.cast_zero, Int.zero_add]
    exact hmatched.2 past hpast
  have hnone : called = [] := by
    rw [hmatched.1] at hlength
    exact List.length_eq_zero_iff.mp (by exact_mod_cast hlength)
  have hdepth : p'.depth = p.depth := by
    rw [hnone, hentries, List.nil_append] at hcalled
    exact congrArg Prod.snd (List.cons.inj hcalled).1
  rw [Discipline.nesting_eq hp', Discipline.nesting_eq hp]
  exact congrArg Nat.cast hdepth

/-! ## Transactions -/

/-- What the task has written in this call may be exposed as soon as the lock is free. -/
def Place.Open (p : Place) : Prop := p.written = true ∧ (p.depth = 0 → p.exposed = true)

theorem Place.next_writes {p q : Place} {e : Event} {a : ℕ}
    (h : p.next (.perform e a) = some q) (hwrites : e.Writes) : p.depth ≠ 0 ∧ q.Open := by
  cases Place.perform_cases h with
  | write hwrites hheld => exact ⟨hheld, rfl, fun hfree => absurd hfree hheld⟩
  | keep hcall hnot hreads => exact absurd hwrites hnot
  | enter | leave | delay => exact hwrites.elim

theorem Place.next_reads {p q : Place} {e : Event} {a : ℕ}
    (h : p.next (.perform e a) = some q) (hreads : e.Reads) : p.exposed = false := by
  cases Place.perform_cases h with
  | keep hcall hwrites hkept => exact hkept hreads
  | write hwrites hheld => exact absurd hwrites hreads.not_writes
  | enter | leave | delay => exact hreads.elim

/-- What is exposed stays exposed, and what is open stays open, until the task returns or gives up
what it has written. -/
theorem Place.next_kept {p q : Place} {op : Op Event} (h : p.next op = some q)
    (hleave : ∀ f a, op ≠ .perform (.leave f) a)
    (hdelay : ∀ a, op = .perform .delay a → p.depth ≠ 0) :
    (p.Open → q.Open) ∧ (p.exposed = true → q.exposed = true) := by
  cases op with
  | obtain =>
      obtain rfl := Option.some.inj h
      exact ⟨fun hopen => ⟨hopen.1, fun hzero => absurd hzero (Nat.succ_ne_zero _)⟩, id⟩
  | release =>
      obtain ⟨-, -, hwritten, hexposed⟩ := Place.next_release h
      refine ⟨fun hopen => ⟨hwritten.trans hopen.1, fun hzero => ?_⟩, fun hp => ?_⟩
      · rw [hexposed, hopen.1, hzero]
        exact Bool.or_true _
      · rw [hexposed, hp, Bool.true_or]
  | perform e a =>
      cases Place.perform_cases h with
      | enter | keep => exact ⟨id, id⟩
      | leave f hentries => exact absurd rfl (hleave f a)
      | delay hfree => exact absurd hfree (hdelay a rfl)
      | write hwrites hheld => exact ⟨fun _ => ⟨rfl, fun hfree => absurd hfree hheld⟩, id⟩

omit [DecidableEq ι] in
theorem Stays.left {first second : List (ι × Op Event)} (h : Stays t (first ++ second)) :
    Stays t first :=
  fun f a hmem => h f a (List.mem_append_left _ hmem)

omit [DecidableEq ι] in
theorem Stays.right {first second : List (ι × Op Event)} (h : Stays t (first ++ second)) :
    Stays t second :=
  fun f a hmem => h f a (List.mem_append_right _ hmem)

theorem HoldsInDelays.left {before first second : List (ι × Op Event)}
    (h : HoldsInDelays t before (first ++ second)) : HoldsInDelays t before first := by
  intro past a rest hfirst
  apply h past a (rest ++ second)
  rw [hfirst, List.append_assoc, List.cons_append]

theorem HoldsInDelays.right {before first second : List (ι × Op Event)}
    (h : HoldsInDelays t before (first ++ second)) :
    HoldsInDelays t (before ++ first) second := by
  intro past a rest hsecond
  rw [List.append_assoc]
  apply h (first ++ past) a rest
  rw [hsecond, List.append_assoc]

/-- Along a part of the trace in which the task neither returns nor gives up what it has written. -/
theorem kept_along {I : Place → Prop}
    (hkept : ∀ p q op, p.next op = some q → (∀ f a, op ≠ .perform (.leave f) a) →
      (∀ a, op = .perform .delay a → p.depth ≠ 0) → I p → I q)
    {before between : List (ι × Op Event)} (hstays : Stays t between)
    (hdelays : HoldsInDelays t before between) {p p' : Place}
    (hp : guarded.after guarded.start (doneBy t before) = some p)
    (hp' : guarded.after guarded.start (doneBy t (before ++ between)) = some p') (h : I p) :
    I p' := by
  induction between using List.reverseRecOn generalizing p' with
  | nil =>
      rw [List.append_nil, hp] at hp'
      exact Option.some.inj hp' ▸ h
  | append_singleton between entry ih =>
      obtain ⟨u, op⟩ := entry
      rw [← List.append_assoc, doneBy_append] at hp'
      obtain ⟨q, hq⟩ := Discipline.exists_after hp'
      have hIq := ih hstays.left hdelays.left hq
      by_cases hu : u = t
      · subst hu
        rw [doneBy_self, Discipline.after_snoc op hq] at hp'
        refine hkept q p' op hp' ?_ ?_ hIq
        · rintro f a rfl
          exact hstays f a (List.mem_append_right _ (List.mem_singleton_self _))
        · rintro a rfl hdepth
          refine hdelays between a [] rfl ?_
          rw [Discipline.nesting_eq hq]
          exact congrArg Nat.cast hdepth
      · rw [doneBy_other op hu, List.append_nil, hq] at hp'
        exact Option.some.inj hp' ▸ hIq

theorem attemptsExclusive (h : Ordered guarded st) : AttemptsExclusive st.trace := by
  intro t before between after write read a b htrace hwrites hreads hstays hdelays u e answer hu
    hmem hother
  obtain ⟨past, rest, rfl⟩ := List.append_of_mem hmem
  -- the write of the task: what it has written is open
  have hwrite : st.trace = before ++ (t, .perform write a) ::
      (past ++ (u, .perform e answer) :: rest ++ (t, .perform read b) :: after) := by
    rw [htrace, List.append_assoc, List.cons_append]
  obtain ⟨_, q, -, hnext, hq⟩ := next_place h hwrite
  obtain ⟨-, hopen⟩ := Place.next_writes hnext hwrites
  -- the write of the other task, which holds the lock
  have hsecond : st.trace = (before ++ [(t, .perform write a)] ++ past) ++
      (u, .perform e answer) :: (rest ++ (t, .perform read b) :: after) := by
    rw [hwrite]
    simp only [List.append_assoc, List.cons_append, List.nil_append]
  obtain ⟨p', _, hp', hnext', -⟩ := next_place h hsecond
  obtain ⟨hdepth, -⟩ := Place.next_writes hnext' hother
  -- so the lock is not held by the task, and what it has written is exposed
  obtain ⟨r, hr⟩ := h.place t hsecond
  have hfree : r.depth = 0 := by
    by_contra hheld
    refine hu (h.always _ ⟨_, hsecond.symm⟩ t u r p' hr hp' ?_ ?_).symm
    · exact Nat.pos_of_ne_zero hheld
    · exact Nat.pos_of_ne_zero hdepth
  have hopen' : r.Open := kept_along (fun _ _ _ hnext hleave hdelay =>
    (Place.next_kept hnext hleave hdelay).1) hstays.left hdelays.left hq hr hopen
  -- which it still is at the read
  have hread : st.trace = (before ++ [(t, .perform write a)] ++ past ++
      (u, .perform e answer) :: rest) ++ (t, .perform read b) :: after := by
    rw [hsecond]
    simp only [List.append_assoc, List.cons_append]
  obtain ⟨p'', _, hp'', hnext'', -⟩ := next_place h hread
  have hexposed : p''.exposed = true := kept_along (fun _ _ _ hnext hleave hdelay =>
    (Place.next_kept hnext hleave hdelay).2) hstays.right hdelays.right hr hp'' (hopen'.2 hfree)
  rw [Place.next_reads hnext'' hreads] at hexposed
  exact Bool.false_ne_true hexposed

end

/-- For every interleaving of any number of tasks, with any answers: every function gives the lock
back as often as it has taken it, and from a write up to every use of the reply in the same call no
other task writes to a buffer, unless the task passes the delay of `chip_SetScanout` without the
lock. -/
theorem command_buffers_guarded {actions : List (Action ι GpuCall)} {st : State ι Event}
    (hrun : Machine.run (State.step GpuCall.code) State.initial actions = some st) :
    LocksBalanced st.trace ∧ AttemptsExclusive st.trace := by
  have hordered : Ordered guarded st := Ordered.run GpuCall.code_follows hrun
  exact ⟨locksBalanced hordered, attemptsExclusive hordered⟩

/-! ## Between two attempts -/

def turns (t n : ℕ) : List (Action ℕ GpuCall) := List.replicate n (.turn t 0)

/-- Task 0 calls `chip_SetScanout`, and its first attempt gets no reply.  Task 1 sends a whole
command before the second attempt, which succeeds. -/
def interruptedRun : List (Action ℕ GpuCall) :=
  [.call 0 (.setScanout ⟨0, 5, 0, 0, 640, 480⟩), .call 1 (.resourceFlush 5 0 0 640 480)] ++
    turns 0 81 ++ [.turn 0 1] ++ turns 0 4 ++
      turns 1 80 ++ [.turn 1 1] ++ turns 1 5 ++
        turns 0 81 ++ [.turn 0 1] ++ turns 0 2 ++ [.turn 0 24, .turn 0 0x1100] ++ turns 0 2

def interrupted : Option (State ℕ Event) :=
  Machine.run (State.step GpuCall.code) State.initial interruptedRun

/-- What is at two places of a list. -/
theorem split_twice {α : Type} {l : List α} {i k : ℕ} {x y : α} (hx : l[i]? = some x)
    (hy : (l.drop (i + 1))[k]? = some y) :
    l = l.take i ++ x :: (l.drop (i + 1)).take k ++ y :: (l.drop (i + 1)).drop (k + 1) := by
  obtain ⟨hi, rfl⟩ := List.getElem?_eq_some_iff.mp hx
  obtain ⟨hk, rfl⟩ := List.getElem?_eq_some_iff.mp hy
  rw [List.append_assoc, List.cons_append, ← List.drop_eq_getElem_cons hk, List.take_append_drop,
    ← List.drop_eq_getElem_cons hi, List.take_append_drop]

theorem command_buffers_guarded_interrupted : ∃ st, interrupted = some st ∧
    LocksBalanced st.trace ∧ AttemptsExclusive st.trace := by
  obtain ⟨st, hst⟩ := Option.isSome_iff_exists.mp (show interrupted.isSome by decide +kernel)
  exact ⟨st, hst, command_buffers_guarded hst⟩

/-- Without the exception it does not hold: task 1 writes to the buffers between the first write of
task 0 and its last read. -/
theorem scanout_attempts_interrupted :
    ¬ ∀ (actions : List (Action ℕ GpuCall)) (st : State ℕ Event),
      Machine.run (State.step GpuCall.code) State.initial actions = some st →
        LocksBalanced st.trace ∧ CallsExclusive st.trace := by
  intro h
  obtain ⟨st, hst⟩ := Option.isSome_iff_exists.mp (show interrupted.isSome by decide +kernel)
  have htrace : st.trace = (interrupted.map State.trace).getD [] := by
    rw [hst]
    rfl
  have hwrite : st.trace[2]? = some (0, .perform (.clear .cmdBuf 0) 0) := by
    rw [htrace]
    decide +kernel
  have hread : (st.trace.drop 3)[254]? =
      some (0, .perform (.load Wrappers.ctrlHdr .type) 0x1100) := by
    rw [htrace]
    decide +kernel
  have hother : ((st.trace.drop 3).take 254)[85]? =
      some (1, .perform (.clear .cmdBuf 0) 0) := by
    rw [htrace]
    decide +kernel
  have hstays : ∀ entry ∈ (st.trace.drop 3).take 254, entry.1 = 0 → opened entry.2 ≠ -1 := by
    rw [htrace]
    decide +kernel
  have hexclusive := (h interruptedRun st hst).2 0 _ _ _ _ _ _ _ (split_twice hwrite hread)
    trivial trivial fun f answer hmem => hstays _ hmem rfl rfl
  exact hexclusive 1 _ _ (by decide) (List.mem_of_getElem? hother) trivial

end VirtIOGPU.Locking
