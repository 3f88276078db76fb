import Mathlib.Data.Nat.Notation
import Mathlib.Logic.Basic

/-!
# Triples for programs with a state

`Triple P m Q`: run from a state with `P`, the program `m` ends in a state with `Q` of its
result.  Programs are total, so there is no other outcome.  A program is taken apart with
`Triple.bind` and `Triple.ite`; what a function does is stated once, as a triple, and used by
its callers.  `Stable` is the triple of an invariant.

Where an error stays once it has occurred, `Unless` says what a program does without it, and
`Guarded` what it reaches.
-/

namespace Lib.Hoare

variable {σ : Type} {α β : Type} {P P' : σ → Prop} {m : StateM σ α} {Q : α → σ → Prop}

/-- A conditional without an alternative. -/
def onlyIf (c : Prop) [Decidable c] (m : StateM σ PUnit) : StateM σ PUnit :=
  if c then m else pure ⟨⟩

/-- The body for 0, 1, …, `n - 1`. -/
def forUp : ℕ → (ℕ → StateM σ PUnit) → StateM σ PUnit
  | 0, _ => pure ⟨⟩
  | n + 1, body => do
      forUp n body
      body n

/-- The body for `n - 1`, …, 1, 0. -/
def forDown : ℕ → (ℕ → StateM σ PUnit) → StateM σ PUnit
  | 0, _ => pure ⟨⟩
  | n + 1, body => do
      body n
      forDown n body

/-- A run, one part after the other. -/
theorem bind_apply {m : StateM σ α} {k : α → StateM σ β} {s t : σ} {a : α} (h : m s = (a, t)) :
    (m >>= k) s = k a t := by
  change k (m s).1 (m s).2 = k a t
  rw [h]

theorem get_bind_apply {k : σ → StateM σ β} (s : σ) : (get >>= k) s = k s s := rfl

def Triple (P : σ → Prop) (m : StateM σ α) (Q : α → σ → Prop) : Prop :=
  ∀ s, P s → Q (m s).1 (m s).2

namespace Triple

theorem ret {a : α} (h : ∀ s, P s → Q a s) : Triple P (pure a) Q := h

theorem bind {k : α → StateM σ β} {R : α → σ → Prop} {S : β → σ → Prop} (hm : Triple P m R)
    (hk : ∀ a, Triple (R a) (k a) S) : Triple P (m >>= k) S :=
  fun s hs => hk (m s).1 (m s).2 (hm s hs)

theorem update {f : σ → σ} {Q : PUnit → σ → Prop} (h : ∀ s, P s → Q ⟨⟩ (f s)) :
    Triple P (modify f) Q := h

theorem transition {f : σ → α × σ} (h : ∀ s, P s → Q (f s).1 (f s).2) :
    Triple P (modifyGet f) Q := h

theorem ite {c : Prop} [Decidable c] {m' : StateM σ α} (hthen : c → Triple P m Q)
    (helse : ¬ c → Triple P m' Q) : Triple P (if c then m else m') Q := by
  by_cases hc : c
  · rw [if_pos hc]
    exact hthen hc
  · rw [if_neg hc]
    exact helse hc

theorem onlyIf {c : Prop} [Decidable c] {m : StateM σ PUnit} {Q : PUnit → σ → Prop}
    (hthen : c → Triple P m Q) (helse : ¬ c → ∀ s, P s → Q ⟨⟩ s) : Triple P (onlyIf c m) Q :=
  ite hthen fun hc => ret (helse hc)

/-- A loop over a list keeps what its body keeps. -/
theorem forM {f : α → StateM σ PUnit} {l : List α} (h : ∀ a ∈ l, Triple P (f a) fun _ => P) :
    Triple P (l.forM f) fun _ => P := by
  induction l with
  | nil => exact ret fun s hs => hs
  | cons a rest ih =>
      refine bind (h a (List.mem_cons_self ..)) fun _ => ih fun b hb => ?_
      exact h b (List.mem_cons_of_mem _ hb)

/-- A loop over rows in ascending order. -/
theorem forUp {n : ℕ} {f : ℕ → StateM σ PUnit} {I : ℕ → σ → Prop}
    (h : ∀ i < n, Triple (I i) (f i) fun _ => I (i + 1)) :
    Triple (I 0) (forUp n f) fun _ => I n := by
  induction n with
  | zero => exact ret fun s hs => hs
  | succ n ih =>
      have hfirst := ih fun i hi => h i (Nat.lt_succ_of_lt hi)
      exact bind hfirst fun _ => h n (Nat.lt_succ_self n)

/-- In descending order. -/
theorem forDown {n : ℕ} {f : ℕ → StateM σ PUnit} {I : ℕ → σ → Prop}
    (h : ∀ i < n, Triple (I (i + 1)) (f i) fun _ => I i) :
    Triple (I n) (forDown n f) fun _ => I 0 := by
  induction n with
  | zero => exact ret fun s hs => hs
  | succ n ih =>
      refine bind (h n (Nat.lt_succ_self n)) fun _ => ?_
      exact ih fun i hi => h i (Nat.lt_succ_of_lt hi)

theorem weaken {S : σ → Prop} (h : Triple S m Q) (hpre : ∀ s, P s → S s) : Triple P m Q :=
  fun s hs => h s (hpre s hs)

theorem strengthen {R : α → σ → Prop} (h : Triple P m R) (hpost : ∀ a s, R a s → Q a s) :
    Triple P m Q :=
  fun s hs => hpost _ _ (h s hs)

theorem and {R : α → σ → Prop} (h : Triple P m Q) (h' : Triple P' m R) :
    Triple (fun s => P s ∧ P' s) m fun a s => Q a s ∧ R a s :=
  fun s hs => ⟨h s hs.1, h' s hs.2⟩

/-- The result of a program may not depend on the state. -/
theorem withResult {a : α} (h : Triple P m Q) (hresult : ∀ s, (m s).1 = a) :
    Triple P m fun b s => b = a ∧ Q a s := by
  intro s hs
  have hQ := h s hs
  rw [hresult s] at hQ
  exact ⟨hresult s, hQ⟩

/-- A fact that does not depend on the state moves to the context. -/
theorem fact {φ : Prop} (h : φ → Triple P m Q) : Triple (fun s => φ ∧ P s) m Q :=
  fun s hs => h hs.1 s hs.2

end Triple

/-- The program keeps `P`. -/
def Stable (P : σ → Prop) (m : StateM σ α) : Prop := Triple P m fun _ => P

namespace Stable

theorem ret (a : α) : Stable P (pure a : StateM σ α) := Triple.ret fun _ hs => hs

theorem update {f : σ → σ} (h : ∀ s, P s → P (f s)) : Stable P (modify f : StateM σ PUnit) := h

theorem bind {k : α → StateM σ β} (hm : Stable P m) (hk : ∀ a, Stable P (k a)) :
    Stable P (m >>= k) :=
  Triple.bind hm hk

theorem ite {c : Prop} [Decidable c] {m' : StateM σ α} (h : Stable P m) (h' : Stable P m') :
    Stable P (if c then m else m') :=
  Triple.ite (fun _ => h) fun _ => h'

theorem onlyIf {c : Prop} [Decidable c] {m : StateM σ PUnit} (h : Stable P m) :
    Stable P (onlyIf c m) :=
  ite h (ret _)

theorem read : Stable P (get : StateM σ σ) := fun _ hs => hs

theorem transition {f : σ → α × σ} (h : ∀ s, P s → P (f s).2) :
    Stable P (modifyGet f : StateM σ α) := h

theorem forUp {n : ℕ} {f : ℕ → StateM σ PUnit} (h : ∀ i < n, Stable P (f i)) :
    Stable P (forUp n f) :=
  Triple.forUp (I := fun _ => P) h

theorem forDown {n : ℕ} {f : ℕ → StateM σ PUnit} (h : ∀ i < n, Stable P (f i)) :
    Stable P (forDown n f) :=
  Triple.forDown (I := fun _ => P) h

end Stable

/-- Run from `s`, the program returns `a` in the state `t`, unless the error `D` occurs. -/
def Unless (D : σ → Prop) (m : StateM σ α) (s : σ) (a : α) (t : σ) : Prop :=
  D (m s).2 ∨ m s = (a, t)

namespace Unless

variable {D : σ → Prop} {s t u : σ} {a : α} {b : β}

theorem ret : Unless D (pure a) s a s := Or.inr rfl

theorem update {f : σ → σ} : Unless D (modify f) s ⟨⟩ (f s) := Or.inr rfl

/-- What comes after the error keeps it. -/
theorem bind {k : α → StateM σ β} (hm : Unless D m s a t) (hk : Unless D (k a) t b u)
    (hstays : ∀ a, Stable D (k a)) : Unless D (m >>= k) s b u := by
  rcases hm with herror | hm
  · exact Or.inl (hstays _ _ herror)
  · change D (k (m s).1 (m s).2).2 ∨ k (m s).1 (m s).2 = (b, u)
    rw [hm]
    exact hk

theorem read {k : σ → StateM σ β} (hk : Unless D (k s) s b u) : Unless D (get >>= k) s b u := hk

theorem no {c : Prop} [Decidable c] {m' : StateM σ α} (hc : ¬ c) (h : Unless D m' s a t) :
    Unless D (if c then m else m') s a t := by
  rwa [if_neg hc]

theorem yes {c : Prop} [Decidable c] {m' : StateM σ α} (hc : c) (h : Unless D m s a t) :
    Unless D (if c then m else m') s a t := by
  rwa [if_pos hc]

theorem result (h : Unless D m s a t) (hok : ¬ D (m s).2) : m s = (a, t) := h.resolve_left hok

end Unless

/-- From a state with `P`, the program ends in one with `Q` of its result, unless the error `D`
occurs; and an error that there has been stays. -/
structure Guarded (D P : σ → Prop) (m : StateM σ α) (Q : α → σ → Prop) : Prop where
  reaches : Triple P m fun a s => Q a s ∨ D s
  stays : Stable D m

namespace Guarded

variable {D : σ → Prop}

theorem ret {a : α} (h : ∀ s, P s → Q a s) : Guarded D P (pure a) Q :=
  ⟨fun s hs => Or.inl (h s hs), Stable.ret a⟩

theorem transition {f : σ → α × σ} (h : ∀ s, P s → Q (f s).1 (f s).2)
    (hstays : ∀ s, D s → D (f s).2) : Guarded D P (modifyGet f) Q :=
  ⟨fun s hs => Or.inl (h s hs), Stable.transition hstays⟩

theorem update {f : σ → σ} {Q : PUnit → σ → Prop} (h : ∀ s, P s → Q ⟨⟩ (f s))
    (hstays : ∀ s, D s → D (f s)) : Guarded D P (modify f) Q :=
  ⟨fun s hs => Or.inl (h s hs), Stable.update hstays⟩

/-- What is read is the state. -/
theorem read : Guarded D P get fun a s => P s ∧ a = s :=
  ⟨fun _ hs => Or.inl ⟨hs, rfl⟩, Stable.read⟩

theorem bind {k : α → StateM σ β} {R : α → σ → Prop} {S : β → σ → Prop} (hm : Guarded D P m R)
    (hk : ∀ a, Guarded D (R a) (k a) S) : Guarded D P (m >>= k) S := by
  refine ⟨Triple.bind hm.reaches fun a s hs => ?_, Stable.bind hm.stays fun a => (hk a).stays⟩
  rcases hs with hR | herror
  · exact (hk a).reaches s hR
  · exact Or.inr ((hk a).stays s herror)

theorem ite {c : Prop} [Decidable c] {m' : StateM σ α}
    (hthen : Guarded D (fun s => c ∧ P s) m Q) (helse : Guarded D (fun s => ¬ c ∧ P s) m' Q) :
    Guarded D P (if c then m else m') Q :=
  ⟨Triple.ite (fun hc s hs => hthen.reaches s ⟨hc, hs⟩) fun hc s hs => helse.reaches s ⟨hc, hs⟩,
    Stable.ite hthen.stays helse.stays⟩

theorem weaken {S : σ → Prop} (h : Guarded D S m Q) (hpre : ∀ s, P s → S s) : Guarded D P m Q :=
  ⟨h.reaches.weaken hpre, h.stays⟩

/-- Nothing has to be shown of what is not reached. -/
theorem never (hstays : Stable D m) (h : ∀ s, ¬ P s) : Guarded D P m Q :=
  ⟨fun s hs => absurd hs (h s), hstays⟩

end Guarded

/-- The program succeeds, with `R`, or else there is an error; and where there has been one, it
fails. -/
structure Attempt (D P : σ → Prop) (m : StateM σ Bool) (R : σ → Prop) : Prop where
  tries : Triple P m fun ok s => ok = true ∧ R s ∨ ok = false ∧ D s
  fails : Triple D m fun ok s => ok = false ∧ D s

namespace Attempt

variable {D R : σ → Prop} {m : StateM σ Bool}

theorem bind {m : StateM σ α} {k : α → StateM σ Bool} {Q : α → σ → Prop} (hm : Guarded D P m Q)
    (hk : ∀ a, Attempt D (Q a) (k a) R) : Attempt D P (m >>= k) R := by
  refine ⟨Triple.bind hm.reaches fun a s hs => ?_, Triple.bind hm.stays fun a => (hk a).fails⟩
  rcases hs with hQ | herror
  · exact (hk a).tries s hQ
  · exact Or.inr ((hk a).fails s herror)

theorem guarded (h : Attempt D P m R) : Guarded D P m fun ok s => ok = true ∧ R s := by
  refine ⟨h.tries.strengthen fun ok s hs => ?_, h.fails.strengthen fun ok s hs => hs.2⟩
  exact hs.imp_right And.right

/-- What is done after a success need not keep the error. -/
theorem cases {A B : StateM σ α} {Q : α → σ → Prop} (h : Attempt D P m R)
    (hA : Triple R A fun a s => Q a s ∨ D s) (hB : Stable D B) :
    Guarded D P (m >>= fun ok => if ok = true then A else B) Q := by
  refine ⟨Triple.bind h.tries fun ok s hs => ?_, Triple.bind h.fails fun ok s hs => ?_⟩
  · rcases hs with ⟨rfl, hR⟩ | ⟨rfl, herror⟩
    · exact hA s hR
    · exact Or.inr (hB s herror)
  · obtain ⟨rfl, herror⟩ := hs
    exact hB s herror

/-- After a failure nothing more is tried. -/
theorem andThen {A : StateM σ Bool} {S : σ → Prop} (h : Attempt D P m R)
    (hA : Triple R A fun ok s => ok = true ∧ S s ∨ ok = false ∧ D s) :
    Attempt D P (m >>= fun ok => if ok = true then A else pure false) S := by
  refine ⟨Triple.bind h.tries fun ok s hs => ?_, Triple.bind h.fails fun ok s hs => ?_⟩
  · rcases hs with ⟨rfl, hR⟩ | ⟨rfl, herror⟩
    · exact hA s hR
    · exact Or.inr ⟨rfl, herror⟩
  · obtain ⟨rfl, herror⟩ := hs
    exact ⟨rfl, herror⟩

/-- The same, with the test the other way round. -/
theorem orReturn {A : StateM σ Bool} {S : σ → Prop} (h : Attempt D P m R)
    (hA : Triple R A fun ok s => ok = true ∧ S s ∨ ok = false ∧ D s) :
    Attempt D P (m >>= fun ok => if (!ok) = true then pure false else A) S := by
  have hsame : (fun ok => if (!ok) = true then pure false else A) =
      fun ok => if ok = true then A else pure false := by
    funext ok
    cases ok <;> rfl
  rw [hsame]
  exact h.andThen hA

theorem weaken {S : σ → Prop} (h : Attempt D S m R) (hpre : ∀ s, P s → S s) : Attempt D P m R :=
  ⟨h.tries.weaken hpre, h.fails⟩

end Attempt

/-- `Q` holds of the result of the program from every state. -/
def Results (m : StateM σ α) (Q : α → Prop) : Prop := ∀ s, Q (m s).1

namespace Results

theorem ret {a : α} {Q : α → Prop} (h : Q a) : Results (pure a : StateM σ α) Q := fun _ => h

theorem bind {m : StateM σ α} {k : α → StateM σ β} {R : α → Prop} {Q : β → Prop}
    (hm : Results m R) (hk : ∀ a, R a → Results (k a) Q) : Results (m >>= k) Q :=
  fun s => hk _ (hm s) _

/-- What comes first has no say in the result. -/
theorem skip {m : StateM σ α} {k : α → StateM σ β} {Q : β → Prop} (hk : ∀ a, Results (k a) Q) :
    Results (m >>= k) Q :=
  fun _ => hk _ _

theorem ite {c : Prop} [Decidable c] {m m' : StateM σ α} {Q : α → Prop}
    (hthen : c → Results m Q) (helse : ¬ c → Results m' Q) : Results (if c then m else m') Q := by
  by_cases hc : c
  · rw [if_pos hc]
    exact hthen hc
  · rw [if_neg hc]
    exact helse hc

theorem weaken {m : StateM σ α} {Q R : α → Prop} (h : Results m R) (hle : ∀ a, R a → Q a) :
    Results m Q :=
  fun s => hle _ (h s)

end Results

end Lib.Hoare
