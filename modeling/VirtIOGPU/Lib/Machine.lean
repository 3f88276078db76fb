import Mathlib.Logic.Basic

/-!
# Machines with partial steps

A machine is a step function `step : σ → α → Option σ`; `none` says that the
action is not enabled.  `run` performs a list of actions, and `Within` says that
every action of the list is taken in a state that permits it.

Two rules carry every statement about whole runs: `run_invariant`, induction
over a run, and `run_simulation`, which turns a run of one machine into a run of
another along a relation between their states.  `within_iff_always` says when a
restriction on the actions is exactly what a property of the states needs.
-/

namespace Lib.Machine

variable {σ τ α β : Type*}

/-- Perform the actions in order. -/
def run (step : σ → α → Option σ) : σ → List α → Option σ
  | s, [] => some s
  | s, a :: rest => (step s a).bind fun t => run step t rest

/-- Every action of the list is permitted in the state in which the run takes it. -/
def Within (step : σ → α → Option σ) (permitted : σ → α → Prop) : σ → List α → Prop
  | _, [] => True
  | s, a :: rest => permitted s a ∧ ∀ t, step s a = some t → Within step permitted t rest

/-- `P` holds in every state that the run passes through. -/
def Always (step : σ → α → Option σ) (P : σ → Prop) : σ → List α → Prop
  | s, [] => P s
  | s, a :: rest => P s ∧ ∀ t, step s a = some t → Always step P t rest

variable {step : σ → α → Option σ} {permitted : σ → α → Prop} {P : σ → Prop}

@[simp] theorem run_nil (s : σ) : run step s [] = some s := rfl

theorem run_cons_eq_some {s u : σ} {a : α} {rest : List α} :
    run step s (a :: rest) = some u ↔ ∃ t, step s a = some t ∧ run step t rest = some u := by
  simp [run, Option.bind_eq_some_iff]

theorem run_append {s t : σ} {first second : List α} (h : run step s first = some t) :
    run step s (first ++ second) = run step t second := by
  induction first generalizing s with
  | nil =>
      obtain rfl : s = t := by simpa using h
      rfl
  | cons a rest ih =>
      obtain ⟨u, hstep, hrest⟩ := run_cons_eq_some.mp h
      simp only [List.cons_append, run, hstep, Option.bind_some]
      exact ih hrest

/-- A run of two parts. -/
theorem run_append_eq_some {s u : σ} {first second : List α} :
    run step s (first ++ second) = some u ↔
      ∃ t, run step s first = some t ∧ run step t second = some u := by
  constructor
  · intro h
    induction first generalizing s with
    | nil => exact ⟨s, rfl, h⟩
    | cons a rest ih =>
        obtain ⟨v, hstep, hrest⟩ := run_cons_eq_some.mp h
        obtain ⟨t, hfirst, hsecond⟩ := ih hrest
        exact ⟨t, run_cons_eq_some.mpr ⟨v, hstep, hfirst⟩, hsecond⟩
  · rintro ⟨t, hfirst, hsecond⟩
    rw [run_append hfirst, hsecond]

theorem within_true (s : σ) (actions : List α) : Within step (fun _ _ => True) s actions := by
  induction actions generalizing s with
  | nil => trivial
  | cons a rest ih => exact ⟨trivial, fun t _ => ih t⟩

instance Within.decidable [∀ s a, Decidable (permitted s a)] :
    ∀ (s : σ) (actions : List α), Decidable (Within step permitted s actions)
  | _, [] => isTrue trivial
  | s, a :: rest =>
      have : Decidable (∀ t, step s a = some t → Within step permitted t rest) :=
        match hstep : step s a with
        | none => isTrue fun _ h => absurd h (by simp)
        | some u =>
            have := Within.decidable u rest
            decidable_of_iff (Within step permitted u rest)
              ⟨fun h t ht => Option.some.inj ht ▸ h, fun h => h u rfl⟩
      inferInstanceAs (Decidable (_ ∧ _))

instance Always.decidable [DecidablePred P] :
    ∀ (s : σ) (actions : List α), Decidable (Always step P s actions)
  | s, [] => inferInstanceAs (Decidable (P s))
  | s, a :: rest =>
      have : Decidable (∀ t, step s a = some t → Always step P t rest) :=
        match hstep : step s a with
        | none => isTrue fun _ h => absurd h (by simp)
        | some u =>
            have := Always.decidable u rest
            decidable_of_iff (Always step P u rest)
              ⟨fun h t ht => Option.some.inj ht ▸ h, fun h => h u rfl⟩
      inferInstanceAs (Decidable (_ ∧ _))

/-- What is allowed along a run is allowed along its second part. -/
theorem within_append_right {s t : σ} {first second : List α}
    (h : Within step permitted s (first ++ second)) (hrun : run step s first = some t) :
    Within step permitted t second := by
  induction first generalizing s with
  | nil =>
      obtain rfl : s = t := by simpa using hrun
      exact h
  | cons a rest ih =>
      obtain ⟨u, hstep, hrest⟩ := run_cons_eq_some.mp hrun
      exact ih (h.2 u hstep) hrest

/-- What always holds along a run always holds along its second part. -/
theorem always_append_right {s t : σ} {first second : List α}
    (h : Always step P s (first ++ second)) (hrun : run step s first = some t) :
    Always step P t second := by
  induction first generalizing s with
  | nil =>
      obtain rfl : s = t := by simpa using hrun
      exact h
  | cons a rest ih =>
      obtain ⟨u, hstep, hrest⟩ := run_cons_eq_some.mp hrun
      exact ih (h.2 u hstep) hrest

/-- What always holds along a run holds at its end. -/
theorem always_last {s t : σ} {actions : List α} (h : Always step P s actions)
    (hrun : run step s actions = some t) : P t := by
  rw [← List.append_nil actions] at h
  have hend : Always step P t [] := always_append_right h hrun
  exact hend

/-- What a step does not restore holds all along a run at whose end it holds. -/
theorem always_of_last (hback : ∀ s a t, step s a = some t → P t → P s) {s t : σ}
    {actions : List α} (hrun : run step s actions = some t) (hlast : P t) :
    Always step P s actions := by
  induction actions generalizing s with
  | nil =>
      obtain rfl : s = t := by simpa using hrun
      exact hlast
  | cons a rest ih =>
      obtain ⟨u, hstep, hrest⟩ := run_cons_eq_some.mp hrun
      have hlater := ih hrest
      have hnext : P u := by
        cases rest with
        | nil => exact hlater
        | cons b rest => exact hlater.1
      refine ⟨hback s a u hstep hnext, fun v hv => ?_⟩
      obtain rfl := Option.some.inj (hstep.symm.trans hv)
      exact hlater

/-- A restriction on the actions alone. -/
theorem within_of_forall {allowed : α → Prop} {s : σ} {actions : List α}
    (h : ∀ a ∈ actions, allowed a) : Within step (fun _ a => allowed a) s actions := by
  induction actions generalizing s with
  | nil => trivial
  | cons a rest ih =>
      exact ⟨h a (List.mem_cons_self ..), fun t _ => ih fun b hb => h b (List.mem_cons_of_mem _ hb)⟩

/-- What every permitted step preserves holds after every run of permitted steps. -/
theorem run_invariant {I : σ → Prop}
    (hpreserved : ∀ s a t, I s → permitted s a → step s a = some t → I t)
    {s t : σ} {actions : List α} (hs : I s) (hwithin : Within step permitted s actions)
    (hrun : run step s actions = some t) : I t := by
  induction actions generalizing s with
  | nil =>
      obtain rfl : s = t := by simpa using hrun
      exact hs
  | cons a rest ih =>
      obtain ⟨u, hstep, hrest⟩ := run_cons_eq_some.mp hrun
      exact ih (hpreserved s a u hs hwithin.1 hstep) (hwithin.2 u hstep) hrest

/-- Without a restriction on the actions. -/
theorem run_invariant' {I : σ → Prop} (hpreserved : ∀ s a t, I s → step s a = some t → I t)
    {s t : σ} {actions : List α} (hs : I s) (hrun : run step s actions = some t) : I t := by
  have hwithin : Within step (fun _ _ => True) s actions := within_true s actions
  exact run_invariant (fun s a t hI _ hstep => hpreserved s a t hI hstep) hs hwithin hrun

/-- What follows from a restriction wherever `I` holds, along runs that keep `I`. -/
theorem within_imp {permitted' : σ → α → Prop} {I : σ → Prop}
    (himp : ∀ s a, I s → permitted s a → permitted' s a)
    (hpreserved : ∀ s a t, I s → permitted s a → step s a = some t → I t)
    {s : σ} {actions : List α} (hs : I s) (h : Within step permitted s actions) :
    Within step permitted' s actions := by
  induction actions generalizing s with
  | nil => trivial
  | cons a rest ih =>
      obtain ⟨ha, hrest⟩ := h
      exact ⟨himp s a hs ha, fun t ht => ih (hpreserved s a t hs ha ht) (hrest t ht)⟩

/-- Where `I` gives `P` and permitted steps keep `I`, `P` always holds. -/
theorem always_of_within {I : σ → Prop} (hholds : ∀ s, I s → P s)
    (hpreserved : ∀ s a t, I s → permitted s a → step s a = some t → I t)
    {s : σ} {actions : List α} (hs : I s) (hwithin : Within step permitted s actions) :
    Always step P s actions := by
  induction actions generalizing s with
  | nil => exact hholds s hs
  | cons a rest ih =>
      obtain ⟨ha, hrest⟩ := hwithin
      exact ⟨hholds s hs, fun t ht => ih (hpreserved s a t hs ha ht) (hrest t ht)⟩

/-- Where a forbidden action always leads to a state without `P`, the runs of permitted actions
are those along which `P` always holds. -/
theorem within_iff_always {I : σ → Prop} (hholds : ∀ s, I s → P s)
    (hpreserved : ∀ s a t, I s → permitted s a → step s a = some t → I t)
    (hviolated : ∀ s a, I s → ¬ permitted s a → ∃ t, step s a = some t ∧ ¬ P t)
    {s : σ} (actions : List α) (hs : I s) :
    Within step permitted s actions ↔ Always step P s actions := by
  refine ⟨always_of_within hholds hpreserved hs, fun halways => ?_⟩
  induction actions generalizing s with
  | nil => trivial
  | cons a rest ih =>
      obtain ⟨-, hrest⟩ := halways
      have ha : permitted s a := by
        refine Classical.byContradiction fun hforbidden => ?_
        obtain ⟨t, hstep, hP⟩ := hviolated s a hs hforbidden
        have hlater := hrest t hstep
        cases rest with
        | nil => exact hP hlater
        | cons b rest => exact hP hlater.1
      exact ⟨ha, fun t ht => ih (hpreserved s a t hs ha ht) (hrest t ht)⟩

/-- Two restrictions that agree wherever `I` holds allow the same runs from a state with
`I`, when the steps that they allow preserve `I`. -/
theorem within_congr {permitted' : σ → α → Prop} {I : σ → Prop}
    (hagree : ∀ s a, I s → (permitted s a ↔ permitted' s a))
    (hpreserved : ∀ s a t, I s → permitted s a → step s a = some t → I t)
    {s : σ} (actions : List α) (hs : I s) :
    Within step permitted s actions ↔ Within step permitted' s actions := by
  constructor
  · exact within_imp (fun s a hI => (hagree s a hI).mp) hpreserved hs
  · refine within_imp (fun s a hI => (hagree s a hI).mpr) (fun s a t hI ha => ?_) hs
    exact hpreserved s a t hI ((hagree s a hI).mpr ha)

/-- Forward simulation: where one step of `step` is matched by a list of actions
of `other` along `R`, a run of `step` is matched by a run of `other`. -/
theorem run_simulation {other : τ → β → Option τ} {R : σ → τ → Prop}
    (hmatched : ∀ s a t x, R s x → step s a = some t →
      ∃ (bs : List β) (y : τ), run other x bs = some y ∧ R t y)
    {s t : σ} {x : τ} {actions : List α} (hR : R s x) (hrun : run step s actions = some t) :
    ∃ (bs : List β) (y : τ), run other x bs = some y ∧ R t y := by
  induction actions generalizing s x with
  | nil =>
      obtain rfl : s = t := by simpa using hrun
      exact ⟨[], x, rfl, hR⟩
  | cons a rest ih =>
      obtain ⟨u, hstep, hrest⟩ := run_cons_eq_some.mp hrun
      obtain ⟨bs, y, hbs, hy⟩ := hmatched s a u x hR hstep
      obtain ⟨cs, z, hcs, hz⟩ := ih hy hrest
      exact ⟨bs ++ cs, z, by rw [run_append hbs, hcs], hz⟩

/-- The same, where each action is matched by itself. -/
theorem run_lockstep {other : τ → α → Option τ} {R : σ → τ → Prop}
    (hmatched : ∀ s a t x, R s x → step s a = some t → ∃ y, other x a = some y ∧ R t y)
    {s t : σ} {x : τ} {actions : List α} (hR : R s x) (hrun : run step s actions = some t) :
    ∃ y, run other x actions = some y ∧ R t y := by
  induction actions generalizing s x with
  | nil =>
      obtain rfl : s = t := by simpa using hrun
      exact ⟨x, rfl, hR⟩
  | cons a rest ih =>
      obtain ⟨u, hstep, hrest⟩ := run_cons_eq_some.mp hrun
      obtain ⟨y, hother, hy⟩ := hmatched s a u x hR hstep
      obtain ⟨z, hlater, hz⟩ := ih hy hrest
      exact ⟨z, run_cons_eq_some.mpr ⟨y, hother, hlater⟩, hz⟩

end Lib.Machine
