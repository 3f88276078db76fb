import Mathlib.Algebra.BigOperators.Group.List.Basic
import Mathlib.Data.Int.Cast.Lemmas
import Mathlib.Logic.Function.Basic
import VirtIOGPU.Lib.Machine

/-!
# Threads that share a recursive mutex

A thread obtains and releases the mutex and performs events, each of which is answered by a
number; what it does next may depend on the answer.  Any number of threads take turns in any
order, and a thread that has come to its end may be called again.  A release by a thread that does
not hold the mutex is not refused: it frees the mutex.

A `Discipline` follows one thread through what it does: it says where the thread is, how deep it
holds the mutex there, and what it may do next.  `Follows` is the rule for programs, by which code
is shown to keep to a discipline on every path.  When all the code does, then in every run each
thread is where the discipline says (`Disciplined.run`), and at most one of them holds the mutex
(`Disciplined.exclusive`).

## Strategy

A statement about all threads is won from one about each of them in three steps.

```text
about                 by induction on    statement
a program             the program        Follows: it keeps to the discipline on every path
one thread of a run   the trace          At: the place that its operations so far lead to
all threads           the run            OneHolder: who holds the mutex is as deep as its place
                                         says, and nobody else is inside
```

The last step is where the mutex comes in: a thread obtains it only while it is free or its own
(`obtained_holds`), and the discipline forbids the release by another thread.

What one thread does while the others keep still is sequential code.  `Ends` is its meaning, given
how the events are answered; the turns of that thread alone lead to these endings and to no others
(`Alone.ends`, `Ends.alone`).
-/

namespace Lib.Mutex

variable {ι κ π α β : Type}

/-! ## Programs -/

inductive Thread (κ α : Type) where
  | done (result : α)
  | obtain (next : Thread κ α)
  | release (next : Thread κ α)
  | perform (event : κ) (next : ℕ → Thread κ α)

namespace Thread

def bind : Thread κ α → (α → Thread κ β) → Thread κ β
  | .done result, k => k result
  | .obtain next, k => .obtain (next.bind k)
  | .release next, k => .release (next.bind k)
  | .perform event next, k => .perform event fun answer => (next answer).bind k

instance : Monad (Thread κ) where
  pure := .done
  bind := Thread.bind

end Thread

/-- `MutexObtain`. -/
def mutexObtain : Thread κ Unit := .obtain (.done ())

/-- `MutexRelease`. -/
def mutexRelease : Thread κ Unit := .release (.done ())

/-- An event with its answer. -/
def event (e : κ) : Thread κ ℕ := .perform e .done

/-- An event whose answer does not matter. -/
def act (e : κ) : Thread κ Unit := .perform e fun _ => .done ()

/-- The body for each element of the list. -/
def forEach : List β → (β → Thread κ Unit) → Thread κ Unit
  | [], _ => pure ()
  | b :: rest, body => do
      body b
      forEach rest body

/-! ## Runs -/

/-- What a thread does. -/
inductive Op (κ : Type) where
  | obtain
  | release
  | perform (event : κ) (answer : ℕ)
  deriving DecidableEq

structure State (ι κ : Type) where
  /-- Who holds the mutex, and how often it has obtained it. -/
  owner : Option (ι × ℕ)
  threads : ι → Thread κ Unit
  /-- What has been done, the latest last. -/
  trace : List (ι × Op κ)

/-- What it does to the number of times that the thread holds the mutex. -/
def Op.change : Op κ → ℤ
  | .obtain => 1
  | .release => -1
  | .perform _ _ => 0

/-- Nobody holds the mutex, and nothing runs. -/
def State.initial : State ι κ := ⟨none, fun _ => .done (), []⟩

inductive Action (ι π : Type) where
  /-- The thread begins with a piece of code. -/
  | call (t : ι) (code : π)
  /-- It takes its next step. -/
  | turn (t : ι) (answer : ℕ)

section Step

variable [DecidableEq ι]

/-- How often the thread holds the mutex. -/
def holds (owner : Option (ι × ℕ)) (t : ι) : ℕ :=
  match owner with
  | some (holder, n) => if holder = t then n else 0
  | none => 0

/-- `none`: the thread has to wait. -/
def obtained (owner : Option (ι × ℕ)) (t : ι) : Option (ι × ℕ) :=
  match owner with
  | none => some (t, 1)
  | some (holder, n) => if holder = t then some (t, n + 1) else none

def released (owner : Option (ι × ℕ)) (t : ι) : Option (ι × ℕ) :=
  if 1 < holds owner t then some (t, holds owner t - 1) else none

namespace State

def did (s : State ι κ) (t : ι) (op : Op κ) (owner : Option (ι × ℕ)) (next : Thread κ Unit) :
    State ι κ :=
  ⟨owner, Function.update s.threads t next, s.trace ++ [(t, op)]⟩

def call (code : π → Thread κ Unit) (s : State ι κ) (t : ι) (c : π) : Option (State ι κ) :=
  match s.threads t with
  | .done _ => some { s with threads := Function.update s.threads t (code c) }
  | _ => none

def turn (s : State ι κ) (t : ι) (answer : ℕ) : Option (State ι κ) :=
  match s.threads t with
  | .done _ => none
  | .obtain next =>
      match obtained s.owner t with
      | some owner => some (s.did t .obtain (some owner) next)
      | none => none
  | .release next => some (s.did t .release (released s.owner t) next)
  | .perform e next => some (s.did t (.perform e answer) s.owner (next answer))

/-- `none`: the action is not possible. -/
def step (code : π → Thread κ Unit) (s : State ι κ) : Action ι π → Option (State ι κ)
  | .call t c => s.call code t c
  | .turn t answer => s.turn t answer

end State

end Step

/-! ## Disciplines -/

/-- `next` says where a thread is after what it does; `none` forbids it. -/
structure Discipline (κ σ : Type) where
  start : σ
  next : σ → Op κ → Option σ
  /-- How often the thread holds the mutex. -/
  depth : σ → ℕ
  depth_start : depth start = 0
  depth_obtain : ∀ {s s'}, next s .obtain = some s' → depth s' = depth s + 1
  depth_release : ∀ {s s'}, next s .release = some s' → depth s = depth s' + 1
  depth_perform : ∀ {s s' e answer}, next s (.perform e answer) = some s' → depth s' = depth s

variable {σ : Type} {D : Discipline κ σ}

/-- The thread keeps to the discipline on every path, and comes to its end in a place with
`post`. -/
def Follows (D : Discipline κ σ) : Thread κ α → σ → (σ → Prop) → Prop
  | .done _, s, post => post s
  | .obtain next, s, post => ∃ s', D.next s .obtain = some s' ∧ Follows D next s' post
  | .release next, s, post => ∃ s', D.next s .release = some s' ∧ Follows D next s' post
  | .perform e next, s, post =>
      ∀ answer, ∃ s', D.next s (.perform e answer) = some s' ∧ Follows D (next answer) s' post

namespace Follows

variable {m : Thread κ α} {s s' : σ} {post : σ → Prop}

theorem ret {a : α} (h : post s) : Follows D (pure a : Thread κ α) s post := h

theorem bind {k : α → Thread κ β}
    (h : Follows D m s fun s' => ∀ a, Follows D (k a) s' post) : Follows D (m >>= k) s post := by
  change Follows D (m.bind k) s post
  induction m generalizing s with
  | done result => exact h result
  | obtain next ih =>
      obtain ⟨s', hnext, hrest⟩ := h
      exact ⟨s', hnext, ih hrest⟩
  | release next ih =>
      obtain ⟨s', hnext, hrest⟩ := h
      exact ⟨s', hnext, ih hrest⟩
  | perform e next ih =>
      intro answer
      obtain ⟨s', hnext, hrest⟩ := h answer
      exact ⟨s', hnext, ih answer hrest⟩

theorem mono {post' : σ → Prop} (h : Follows D m s post) (hle : ∀ s, post s → post' s) :
    Follows D m s post' := by
  induction m generalizing s with
  | done result => exact hle s h
  | obtain next ih =>
      obtain ⟨s', hnext, hrest⟩ := h
      exact ⟨s', hnext, ih hrest⟩
  | release next ih =>
      obtain ⟨s', hnext, hrest⟩ := h
      exact ⟨s', hnext, ih hrest⟩
  | perform e next ih =>
      intro answer
      obtain ⟨s', hnext, hrest⟩ := h answer
      exact ⟨s', hnext, ih answer hrest⟩

theorem obtain (hnext : D.next s .obtain = some s') (h : post s') :
    Follows D mutexObtain s post :=
  ⟨s', hnext, h⟩

theorem release (hnext : D.next s .release = some s') (h : post s') :
    Follows D mutexRelease s post :=
  ⟨s', hnext, h⟩

theorem event {e : κ} (hnext : ∀ answer, D.next s (.perform e answer) = some s') (h : post s') :
    Follows D (Mutex.event e) s post :=
  fun answer => ⟨s', hnext answer, h⟩

theorem act {e : κ} (hnext : ∀ answer, D.next s (.perform e answer) = some s') (h : post s') :
    Follows D (Mutex.act e) s post :=
  fun answer => ⟨s', hnext answer, h⟩

theorem ite {c : Prop} [Decidable c] {m' : Thread κ α} (hthen : c → Follows D m s post)
    (helse : ¬ c → Follows D m' s post) : Follows D (if c then m else m') s post := by
  by_cases hc : c
  · rw [if_pos hc]
    exact hthen hc
  · rw [if_neg hc]
    exact helse hc

/-- A loop keeps what its body keeps. -/
theorem forEach {l : List β} {body : β → Thread κ Unit} {I : σ → Prop}
    (hbody : ∀ b s, I s → Follows D (body b) s I) (h : I s) :
    Follows D (Mutex.forEach l body) s I := by
  induction l generalizing s with
  | nil => exact ret h
  | cons b rest ih => exact bind ((hbody b s h).mono fun s' h' _ => ih h')

end Follows

/-! ## What the discipline gives -/

section Run

variable [DecidableEq ι]

/-- What one of the threads has done. -/
def doneBy (t : ι) (trace : List (ι × Op κ)) : List (Op κ) :=
  (trace.filter fun entry => entry.1 = t).map Prod.snd

theorem doneBy_append (t : ι) (first second : List (ι × Op κ)) :
    doneBy t (first ++ second) = doneBy t first ++ doneBy t second := by
  unfold doneBy
  rw [List.filter_append, List.map_append]

theorem doneBy_self (t : ι) (op : Op κ) : doneBy t [(t, op)] = [op] := by
  simp [doneBy]

theorem doneBy_other {t u : ι} (op : Op κ) (h : u ≠ t) : doneBy t [(u, op)] = [] := by
  simp [doneBy, h]

/-- Obtains minus releases of the thread. -/
def nesting (t : ι) (trace : List (ι × Op κ)) : ℤ := ((doneBy t trace).map Op.change).sum

/-- Where the thread is after these operations. -/
def Discipline.after (D : Discipline κ σ) (s : σ) (ops : List (Op κ)) : Option σ :=
  ops.foldlM D.next s

namespace Discipline

theorem after_append (s : σ) (first second : List (Op κ)) :
    D.after s (first ++ second) = (D.after s first).bind fun s' => D.after s' second := by
  unfold after
  rw [List.foldlM_append]
  rfl

theorem after_snoc {s s' : σ} {ops : List (Op κ)} (op : Op κ) (h : D.after s ops = some s') :
    D.after s (ops ++ [op]) = D.next s' op := by
  rw [after_append, h]
  change (D.next s' op).bind some = D.next s' op
  cases D.next s' op with
  | none => rfl
  | some s'' => rfl

theorem depth_next {s s' : σ} {op : Op κ} (h : D.next s op = some s') :
    (D.depth s' : ℤ) = D.depth s + op.change := by
  cases op with
  | obtain =>
      rw [D.depth_obtain h]
      exact Nat.cast_succ _
  | release =>
      rw [D.depth_release h]
      simp [Op.change]
  | perform e answer =>
      rw [D.depth_perform h]
      exact (Int.add_zero _).symm

/-- The depth counts what has been obtained and not released. -/
theorem depth_after {s s' : σ} {ops : List (Op κ)} (h : D.after s ops = some s') :
    (D.depth s' : ℤ) = D.depth s + (ops.map Op.change).sum := by
  induction ops generalizing s with
  | nil =>
      obtain rfl : s = s' := Option.some.inj h
      exact (Int.add_zero _).symm
  | cons op rest ih =>
      obtain ⟨u, hnext, hrest⟩ := Option.bind_eq_some_iff.mp h
      rw [ih hrest, depth_next hnext, List.map_cons, List.sum_cons, Int.add_assoc]

theorem nesting_eq {t : ι} {trace : List (ι × Op κ)} {s : σ}
    (h : D.after D.start (doneBy t trace) = some s) : nesting t trace = D.depth s := by
  have hdepth := depth_after h
  rw [D.depth_start, Nat.cast_zero, Int.zero_add] at hdepth
  exact hdepth.symm

/-- A thread that has come so far has come through every place before. -/
theorem exists_after {s u : σ} {first second : List (Op κ)}
    (h : D.after s (first ++ second) = some u) : ∃ s', D.after s first = some s' := by
  rw [after_append] at h
  obtain ⟨s', hfirst, -⟩ := Option.bind_eq_some_iff.mp h
  exact ⟨s', hfirst⟩

end Discipline

theorem obtained_holds {owner : Option (ι × ℕ)} {owner' : ι × ℕ} {t : ι}
    (h : obtained owner t = some owner') :
    holds (some owner') t = holds owner t + 1 ∧
      ∀ u, u ≠ t → holds (some owner') u = holds owner u := by
  cases owner with
  | none =>
      obtain rfl : (t, 1) = owner' := Option.some.inj h
      exact ⟨if_pos rfl, fun u hu => if_neg (Ne.symm hu)⟩
  | some current =>
      obtain ⟨holder, n⟩ := current
      unfold obtained at h
      by_cases hholder : holder = t
      · subst hholder
        obtain rfl : (holder, n + 1) = owner' := by simpa using h
        refine ⟨?_, fun u hu => ?_⟩
        · simp [holds]
        · simp [holds, Ne.symm hu]
      · simp [hholder] at h

theorem released_holds {owner : Option (ι × ℕ)} {t : ι} {n : ℕ} (h : holds owner t = n + 1) :
    holds (released owner t) t = n ∧ ∀ u, u ≠ t → holds (released owner t) u = holds owner u := by
  -- only the thread that holds the mutex has a number of its own
  have hothers : ∀ u, u ≠ t → holds owner u = 0 := by
    intro u hu
    cases owner with
    | none => rfl
    | some current =>
        obtain ⟨holder, k⟩ := current
        by_cases hholder : holder = t
        · subst hholder
          exact if_neg (Ne.symm hu)
        · simp [holds, hholder] at h
  unfold released
  rw [h]
  by_cases hlast : 1 < n + 1
  · rw [if_pos hlast]
    exact ⟨if_pos rfl, fun u hu => (if_neg (Ne.symm hu)).trans (hothers u hu).symm⟩
  · rw [if_neg hlast]
    have hzero : n = 0 := by omega
    exact ⟨hzero.symm, fun u hu => (hothers u hu).symm⟩

theorem holds_unique {owner : Option (ι × ℕ)} {t u : ι} (ht : 0 < holds owner t)
    (hu : 0 < holds owner u) : t = u := by
  cases owner with
  | none => exact absurd ht (Nat.lt_irrefl 0)
  | some current =>
      obtain ⟨holder, n⟩ := current
      have hholder : ∀ v, 0 < holds (some (holder, n)) v → holder = v := by
        intro v hv
        by_contra hne
        simp [holds, hne] at hv
      exact (hholder t ht).symm.trans (hholder u hu)

/-- The thread is at the place `s`. -/
structure At (D : Discipline κ σ) (st : State ι κ) (t : ι) (s : σ) : Prop where
  place : D.after D.start (doneBy t st.trace) = some s
  ahead : Follows D (st.threads t) s (· = D.start)
  held : holds st.owner t = D.depth s

/-- Every thread is at a place of the discipline. -/
def Disciplined (D : Discipline κ σ) (st : State ι κ) : Prop := ∀ t, ∃ s, At D st t s

/-- At most one thread holds the mutex after these operations. -/
def OneHolder (D : Discipline κ σ) (trace : List (ι × Op κ)) : Prop :=
  ∀ t u s s', D.after D.start (doneBy t trace) = some s →
    D.after D.start (doneBy u trace) = some s' → 0 < D.depth s → 0 < D.depth s' → t = u

theorem Disciplined.oneHolder {st : State ι κ} (h : Disciplined D st) : OneHolder D st.trace := by
  intro t u s s' ht hu hs hs'
  obtain ⟨place, hplace, -, hheld⟩ := h t
  obtain ⟨place', hplace', -, hheld'⟩ := h u
  obtain rfl : place = s := Option.some.inj (hplace.symm.trans ht)
  obtain rfl : place' = s' := Option.some.inj (hplace'.symm.trans hu)
  rw [← hheld] at hs
  rw [← hheld'] at hs'
  exact holds_unique hs hs'

theorem Disciplined.initial : Disciplined D (State.initial : State ι κ) :=
  fun _ => ⟨D.start, rfl, rfl, D.depth_start.symm⟩

/-- One step of a thread, with what it does to the mutex. -/
theorem Disciplined.did {st : State ι κ} (h : Disciplined D st) {t : ι} {op : Op κ}
    {owner : Option (ι × ℕ)} {next : Thread κ Unit} {s s' : σ} (hat : At D st t s)
    (hnext : D.next s op = some s') (hahead : Follows D next s' (· = D.start))
    (hself : holds owner t = D.depth s') (hothers : ∀ u, u ≠ t → holds owner u = holds st.owner u) :
    Disciplined D (st.did t op owner next) := by
  intro u
  by_cases hu : u = t
  · subst hu
    refine ⟨s', ?_, ?_, hself⟩
    · change D.after D.start (doneBy u (st.trace ++ [(u, op)])) = some s'
      rw [doneBy_append, doneBy_self, Discipline.after_snoc op hat.place, hnext]
    · change Follows D (Function.update st.threads u next u) s' (· = D.start)
      rw [Function.update_self]
      exact hahead
  · obtain ⟨place, hplace, hrest, hheld⟩ := h u
    refine ⟨place, ?_, ?_, (hothers u hu).trans hheld⟩
    · change D.after D.start (doneBy u (st.trace ++ [(t, op)])) = some place
      rw [doneBy_append, doneBy_other op (Ne.symm hu), List.append_nil, hplace]
    · change Follows D (Function.update st.threads t next u) place (· = D.start)
      rw [Function.update_of_ne hu]
      exact hrest

theorem Disciplined.call {code : π → Thread κ Unit}
    (hcode : ∀ c, Follows D (code c) D.start (· = D.start)) {st st' : State ι κ} {t : ι} {c : π}
    (h : Disciplined D st) (hcall : st.call code t c = some st') : Disciplined D st' := by
  unfold State.call at hcall
  cases hthread : st.threads t with
  | done result =>
      rw [hthread] at hcall
      obtain rfl := Option.some.inj hcall
      intro u
      obtain ⟨place, hplace, hrest, hheld⟩ := h u
      refine ⟨place, hplace, ?_, hheld⟩
      change Follows D (Function.update st.threads t (code c) u) place (· = D.start)
      by_cases hu : u = t
      · -- it has come to its end, so it is at the start
        subst hu
        rw [hthread] at hrest
        obtain rfl : place = D.start := hrest
        rw [Function.update_self]
        exact hcode c
      · rw [Function.update_of_ne hu]
        exact hrest
  | obtain next => simp [hthread] at hcall
  | release next => simp [hthread] at hcall
  | perform e next => simp [hthread] at hcall

theorem Disciplined.turn {st st' : State ι κ} {t : ι} {answer : ℕ} (h : Disciplined D st)
    (hturn : st.turn t answer = some st') : Disciplined D st' := by
  obtain ⟨s, hat⟩ := h t
  have hahead := hat.ahead
  unfold State.turn at hturn
  cases hthread : st.threads t with
  | done result => simp [hthread] at hturn
  | obtain next =>
      rw [hthread] at hturn hahead
      obtain ⟨s', hnext, hrest⟩ := hahead
      cases howner : obtained st.owner t with
      | none => simp [howner] at hturn
      | some owner =>
          obtain ⟨hself, hothers⟩ := obtained_holds howner
          simp only [howner] at hturn
          obtain rfl := Option.some.inj hturn
          refine h.did hat hnext hrest ?_ hothers
          rw [hself, hat.held, D.depth_obtain hnext]
  | release next =>
      rw [hthread] at hturn hahead
      obtain ⟨s', hnext, hrest⟩ := hahead
      obtain rfl := Option.some.inj hturn
      have hheld : holds st.owner t = D.depth s' + 1 := hat.held.trans (D.depth_release hnext)
      obtain ⟨hself, hothers⟩ := released_holds hheld
      exact h.did hat hnext hrest hself hothers
  | perform e next =>
      rw [hthread] at hturn hahead
      obtain ⟨s', hnext, hrest⟩ := hahead answer
      obtain rfl := Option.some.inj hturn
      exact h.did hat hnext hrest (hat.held.trans (D.depth_perform hnext).symm) fun _ _ => rfl

/-- What holds along a run: every thread is at its place, and at no time has more than one of them
held the mutex. -/
structure Ordered (D : Discipline κ σ) (st : State ι κ) : Prop where
  places : Disciplined D st
  always : ∀ past, past <+: st.trace → OneHolder D past

theorem Ordered.initial : Ordered D (State.initial : State ι κ) where
  places := Disciplined.initial
  always past hpast := by
    obtain rfl := List.prefix_nil.mp hpast
    exact Disciplined.initial.oneHolder

/-- An action does one thing at most. -/
theorem State.step_trace {code : π → Thread κ Unit} {st st' : State ι κ} {action : Action ι π}
    (hstep : st.step code action = some st') :
    st'.trace = st.trace ∨ ∃ entry, st'.trace = st.trace ++ [entry] := by
  cases action with
  | call t c =>
      change st.call code t c = some st' at hstep
      unfold State.call at hstep
      cases hthread : st.threads t with
      | done result =>
          rw [hthread] at hstep
          obtain rfl := Option.some.inj hstep
          exact Or.inl rfl
      | obtain next => simp [hthread] at hstep
      | release next => simp [hthread] at hstep
      | perform e next => simp [hthread] at hstep
  | turn t answer =>
      change st.turn t answer = some st' at hstep
      unfold State.turn at hstep
      cases hthread : st.threads t with
      | done result => simp [hthread] at hstep
      | obtain next =>
          cases howner : obtained st.owner t with
          | none => simp [hthread, howner] at hstep
          | some owner =>
              simp only [hthread, howner] at hstep
              obtain rfl := Option.some.inj hstep
              exact Or.inr ⟨_, rfl⟩
      | release next =>
          rw [hthread] at hstep
          obtain rfl := Option.some.inj hstep
          exact Or.inr ⟨_, rfl⟩
      | perform e next =>
          rw [hthread] at hstep
          obtain rfl := Option.some.inj hstep
          exact Or.inr ⟨_, rfl⟩

theorem Ordered.step {code : π → Thread κ Unit}
    (hcode : ∀ c, Follows D (code c) D.start (· = D.start)) {st st' : State ι κ}
    {action : Action ι π} (h : Ordered D st) (hstep : st.step code action = some st') :
    Ordered D st' := by
  have hplaces : Disciplined D st' := by
    cases action with
    | call t c => exact h.places.call hcode hstep
    | turn t answer => exact h.places.turn hstep
  refine ⟨hplaces, fun past hpast => ?_⟩
  rcases State.step_trace hstep with htrace | ⟨entry, htrace⟩
  · rw [htrace] at hpast
    exact h.always past hpast
  · rw [htrace] at hpast
    rcases List.prefix_concat_iff.mp hpast with rfl | hbefore
    · rw [← List.concat_eq_append, List.concat_eq_append, ← htrace]
      exact hplaces.oneHolder
    · exact h.always past hbefore

/-- In every run of code that keeps to the discipline. -/
theorem Ordered.run {code : π → Thread κ Unit}
    (hcode : ∀ c, Follows D (code c) D.start (· = D.start)) {st : State ι κ}
    {actions : List (Action ι π)}
    (hrun : Machine.run (State.step code) State.initial actions = some st) : Ordered D st :=
  Machine.run_invariant' (fun _ _ _ h hstep => h.step hcode hstep) Ordered.initial hrun

/-- Where a thread has been at some time. -/
theorem Ordered.place {st : State ι κ} (h : Ordered D st) (t : ι) {past rest : List (ι × Op κ)}
    (htrace : st.trace = past ++ rest) : ∃ s, D.after D.start (doneBy t past) = some s := by
  obtain ⟨s, hplace, -, -⟩ := h.places t
  rw [htrace, doneBy_append] at hplace
  exact Discipline.exists_after hplace

end Run

/-! ## A thread that nobody disturbs -/

/-- How the thread ends: with a result, in a state.  An event is answered, and changes the state, as
`react` allows; the mutex is free for the thread whenever it obtains it. -/
def Ends (react : σ → κ → ℕ → σ → Prop) : Thread κ α → σ → α → σ → Prop
  | .done result, s, a, t => a = result ∧ t = s
  | .obtain next, s, a, t => Ends react next s a t
  | .release next, s, a, t => Ends react next s a t
  | .perform e next, s, a, t => ∃ answer u, react s e answer u ∧ Ends react (next answer) u a t

section Ends

variable {react : σ → κ → ℕ → σ → Prop} {m m' : Thread κ α} {s t u : σ} {a : α}

theorem ends_bind {k : α → Thread κ β} {b : β} :
    Ends react (m >>= k) s b t ↔ ∃ a u, Ends react m s a u ∧ Ends react (k a) u b t := by
  change Ends react (m.bind k) s b t ↔ _
  induction m generalizing s with
  | done result =>
      refine ⟨fun h => ⟨result, s, ⟨rfl, rfl⟩, h⟩, ?_⟩
      rintro ⟨a, u, ⟨rfl, rfl⟩, h⟩
      exact h
  | obtain next ih => exact ih
  | release next ih => exact ih
  | perform e next ih =>
      constructor
      · rintro ⟨answer, v, hreact, hrest⟩
        obtain ⟨a, u, hm, hk⟩ := (ih answer).mp hrest
        exact ⟨a, u, ⟨answer, v, hreact, hm⟩, hk⟩
      · rintro ⟨a, u, ⟨answer, v, hreact, hm⟩, hk⟩
        exact ⟨answer, v, hreact, (ih answer).mpr ⟨a, u, hm, hk⟩⟩

theorem ends_ite {c : Prop} [Decidable c] :
    Ends react (if c then m else m') s a t ↔
      (c ∧ Ends react m s a t) ∨ (¬ c ∧ Ends react m' s a t) := by
  by_cases hc : c
  · simp [hc]
  · simp [hc]

theorem ends_event {e : κ} {n : ℕ} : Ends react (event e) s n t ↔ react s e n t := by
  constructor
  · rintro ⟨answer, u, hreact, rfl, rfl⟩
    exact hreact
  · exact fun hreact => ⟨n, t, hreact, rfl, rfl⟩

theorem ends_act {e : κ} : Ends react (act e) s ⟨⟩ t ↔ ∃ answer, react s e answer t := by
  constructor
  · rintro ⟨answer, u, hreact, -, rfl⟩
    exact ⟨answer, hreact⟩
  · rintro ⟨answer, hreact⟩
    exact ⟨answer, t, hreact, rfl, rfl⟩

/-- Where every event can be answered, every thread has an ending. -/
theorem exists_ends (htotal : ∀ s e, ∃ answer t, react s e answer t) (m : Thread κ α) (s : σ) :
    ∃ a t, Ends react m s a t := by
  induction m generalizing s with
  | done result => exact ⟨result, s, rfl, rfl⟩
  | obtain next ih => exact ih s
  | release next ih => exact ih s
  | perform e next ih =>
      obtain ⟨answer, u, hreact⟩ := htotal s e
      obtain ⟨a, t, hends⟩ := ih answer u
      exact ⟨a, t, answer, u, hreact, hends⟩

/-- The thread leaves the state as it is. -/
def Leaves (react : σ → κ → ℕ → σ → Prop) (m : Thread κ α) : Prop :=
  ∀ s a t, Ends react m s a t → t = s

namespace Leaves

theorem ret (a : α) : Leaves react (pure a : Thread κ α) := fun _ _ _ h => h.2

theorem bind {k : α → Thread κ β} (hm : Leaves react m) (hk : ∀ a, Leaves react (k a)) :
    Leaves react (m >>= k) := by
  intro s b t h
  obtain ⟨a, u, hfirst, hrest⟩ := ends_bind.mp h
  rw [hk a u b t hrest, hm s a u hfirst]

theorem ite {c : Prop} [Decidable c] (hthen : Leaves react m) (helse : Leaves react m') :
    Leaves react (if c then m else m') := by
  intro s a t h
  rcases ends_ite.mp h with ⟨-, h⟩ | ⟨-, h⟩
  · exact hthen s a t h
  · exact helse s a t h

theorem obtain : Leaves react mutexObtain := fun _ _ _ h => h.2

theorem release : Leaves react mutexRelease := fun _ _ _ h => h.2

theorem event {e : κ} (h : ∀ s n t, react s e n t → t = s) : Leaves react (event e) :=
  fun s n t hends => h s n t (ends_event.mp hends)

theorem act {e : κ} (h : ∀ s n t, react s e n t → t = s) : Leaves react (act e) := by
  intro s _ t hends
  obtain ⟨n, hreact⟩ := ends_act.mp hends
  exact h s n t hreact

theorem forEach {l : List β} {body : β → Thread κ Unit} (h : ∀ b, Leaves react (body b)) :
    Leaves react (forEach l body) := by
  induction l with
  | nil => exact ret _
  | cons b rest ih => exact bind (h b) fun _ => ih

end Leaves

/-- What an operation does to the state. -/
def Op.Reacts (react : σ → κ → ℕ → σ → Prop) (s : σ) : Op κ → σ → Prop
  | .obtain, t => t = s
  | .release, t => t = s
  | .perform e answer, t => react s e answer t

/-- A run in which only one thread takes turns. -/
inductive Alone [DecidableEq ι] (react : σ → κ → ℕ → σ → Prop) (i : ι) :
    State ι κ → σ → State ι κ → σ → Prop where
  | stay {st : State ι κ} {s : σ} : Alone react i st s st s
  | turn {st st' last : State ι κ} {s u t : σ} {answer : ℕ} {op : Op κ}
      (hturn : st.turn i answer = some st') (hop : st'.trace = st.trace ++ [(i, op)])
      (hreact : op.Reacts react s u) (hrest : Alone react i st' u last t) :
      Alone react i st s last t

theorem State.did_self [DecidableEq ι] (st : State ι κ) (i : ι) (op : Op κ)
    (owner : Option (ι × ℕ)) (next : Thread κ Unit) : (st.did i op owner next).threads i = next :=
  Function.update_self ..

/-- A turn is the first operation of the thread. -/
theorem State.turn_ends [DecidableEq ι] {i : ι} {st st' : State ι κ} {answer : ℕ} {op : Op κ}
    (hturn : st.turn i answer = some st') (hop : st'.trace = st.trace ++ [(i, op)])
    (hreact : op.Reacts react s u) (hrest : Ends react (st'.threads i) u () t) :
    Ends react (st.threads i) s () t := by
  have hdid {op' : Op κ} {owner : Option (ι × ℕ)} {next : Thread κ Unit}
      (h : st.did i op' owner next = st') : op' = op ∧ Ends react next u () t := by
    subst h
    obtain ⟨-, hlast⟩ := List.append_inj' hop rfl
    refine ⟨congrArg Prod.snd (List.singleton_inj.mp hlast), ?_⟩
    rwa [State.did_self] at hrest
  unfold State.turn at hturn
  cases hthread : st.threads i with
  | done result => simp [hthread] at hturn
  | obtain next =>
      cases howner : obtained st.owner i with
      | none => simp [hthread, howner] at hturn
      | some owner =>
          simp only [hthread, howner] at hturn
          obtain ⟨rfl, hnext⟩ := hdid (Option.some.inj hturn)
          obtain rfl : u = s := hreact
          exact hnext
  | release next =>
      rw [hthread] at hturn
      obtain ⟨rfl, hnext⟩ := hdid (Option.some.inj hturn)
      obtain rfl : u = s := hreact
      exact hnext
  | perform e next =>
      rw [hthread] at hturn
      obtain ⟨rfl, hnext⟩ := hdid (Option.some.inj hturn)
      exact ⟨answer, u, hreact, hnext⟩

theorem Alone.ends [DecidableEq ι] {i : ι} {st st' : State ι κ}
    (h : Alone react i st s st' t) (hdone : st'.threads i = .done ()) :
    Ends react (st.threads i) s () t := by
  induction h with
  | stay =>
      rw [hdone]
      exact ⟨rfl, rfl⟩
  | turn hturn hop hreact _ ih => exact State.turn_ends hturn hop hreact (ih hdone)

/-- Nobody else holds the mutex. -/
def FreeFor (owner : Option (ι × ℕ)) (i : ι) : Prop :=
  ∀ holder n, owner = some (holder, n) → holder = i

theorem FreeFor.obtained [DecidableEq ι] {owner : Option (ι × ℕ)} {i : ι} (h : FreeFor owner i) :
    ∃ n, obtained owner i = some (i, n) := by
  cases owner with
  | none => exact ⟨1, rfl⟩
  | some current =>
      obtain ⟨holder, n⟩ := current
      obtain rfl : holder = i := h holder n rfl
      exact ⟨n + 1, if_pos rfl⟩

theorem FreeFor.released [DecidableEq ι] (owner : Option (ι × ℕ)) (i : ι) :
    FreeFor (released owner i) i := by
  intro holder n h
  unfold Mutex.released at h
  split at h
  · exact (congrArg Prod.fst (Option.some.inj h)).symm
  · exact absurd h.symm (Option.some_ne_none _)

/-- While the others wait outside the thread comes to each of its endings. -/
theorem Ends.alone [DecidableEq ι] {i : ι} {st : State ι κ} {m : Thread κ Unit}
    (hm : st.threads i = m) (hfree : FreeFor st.owner i) (h : Ends react m s () t) :
    ∃ st', Alone react i st s st' t ∧ st'.threads i = .done () := by
  induction m generalizing st s with
  | done result =>
      obtain ⟨-, rfl⟩ := h
      exact ⟨st, .stay, hm⟩
  | obtain next ih =>
      obtain ⟨n, howner⟩ := hfree.obtained
      have hturn : st.turn i 0 = some (st.did i .obtain (some (i, n)) next) := by
        simp only [State.turn, hm, howner]
      have hfree' : FreeFor (some (i, n)) i := fun holder k hk =>
        (congrArg Prod.fst (Option.some.inj hk)).symm
      obtain ⟨st', hrest, hdone⟩ := ih (State.did_self ..) hfree' h
      exact ⟨st', .turn hturn rfl rfl hrest, hdone⟩
  | release next ih =>
      have hturn : st.turn i 0 = some (st.did i .release (released st.owner i) next) := by
        simp only [State.turn, hm]
      obtain ⟨st', hrest, hdone⟩ := ih (State.did_self ..) (FreeFor.released _ _) h
      exact ⟨st', .turn hturn rfl rfl hrest, hdone⟩
  | perform e next ih =>
      obtain ⟨answer, u, hreact, hends⟩ := h
      have hturn : st.turn i answer =
          some (st.did i (.perform e answer) st.owner (next answer)) := by
        simp only [State.turn, hm]
      obtain ⟨st', hrest, hdone⟩ := ih answer (State.did_self ..) hfree hends
      exact ⟨st', .turn hturn rfl hreact hrest, hdone⟩

end Ends

end Lib.Mutex
